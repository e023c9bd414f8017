import Mathlib.Data.List.Infix
import TypeGuards.Encoding.Utf8
/-!
UTF-8 read back. Decoding undoes encoding, and so does decoding a part of the bytes that cuts no
character; nothing else is decoded.
-/
namespace TypeGuards.Encoding.Utf8

section

variable {a b c d : UInt8} {rest : List UInt8} {done : List Char} {position : Nat}

theorem decodeFrom_one (ha : a.toNat < 0x80) :
    decodeFrom position done (a :: rest) =
      decodeFrom (position + 1) (Char.ofNat a.toNat :: done) rest := by
  have hfirst : a < 0x80 := by simpa [UInt8.lt_iff_toNat_lt] using ha
  rw [decodeFrom.eq_def]
  exact if_pos hfirst

theorem not_isStray (hlow : 0xc2 ≤ a.toNat) (hhigh : a.toNat ≤ 0xf4) :
    ¬ a < 0x80 ∧ ¬ ((a < 0xc2 || 0xf4 < a) = true) := by
  simp [UInt8.lt_iff_toNat_lt]
  omega

theorem decodeFrom_two (hlow : 0xc2 ≤ a.toNat) (hhigh : a.toNat < 0xe0)
    (hb : isSecond a b = true) :
    decodeFrom position done (a :: b :: rest) =
      decodeFrom (position + 2) (compose (a.toNat - 0xc0) [b] :: done) rest := by
  obtain ⟨hfirst, hstray⟩ := not_isStray hlow (by omega)
  have htwo : a < 0xe0 := by simpa [UInt8.lt_iff_toNat_lt] using hhigh
  rw [decodeFrom.eq_def]
  simp [hfirst, hstray, hb, htwo]

theorem decodeFrom_three (hlow : 0xe0 ≤ a.toNat) (hhigh : a.toNat < 0xf0)
    (hb : isSecond a b = true) (hc : isContinuation c = true) :
    decodeFrom position done (a :: b :: c :: rest) =
      decodeFrom (position + 3) (compose (a.toNat - 0xe0) [b, c] :: done) rest := by
  obtain ⟨hfirst, hstray⟩ := not_isStray (a := a) (by omega) (by omega)
  have htwo : ¬ a < 0xe0 := by simpa [UInt8.lt_iff_toNat_lt] using hlow
  have hthree : a < 0xf0 := by simpa [UInt8.lt_iff_toNat_lt] using hhigh
  rw [decodeFrom.eq_def]
  simp [hfirst, hstray, hb, hc, htwo, hthree]

theorem decodeFrom_four (hlow : 0xf0 ≤ a.toNat) (hhigh : a.toNat ≤ 0xf4)
    (hb : isSecond a b = true) (hc : isContinuation c = true) (hd : isContinuation d = true) :
    decodeFrom position done (a :: b :: c :: d :: rest) =
      decodeFrom (position + 4) (compose (a.toNat - 0xf0) [b, c, d] :: done) rest := by
  obtain ⟨hfirst, hstray⟩ := not_isStray (a := a) (by omega) (by omega)
  have htwo : ¬ a < 0xe0 := by
    simp only [UInt8.lt_iff_toNat_lt, UInt8.reduceToNat]
    omega
  have hthree : ¬ a < 0xf0 := by simpa [UInt8.lt_iff_toNat_lt] using hlow
  rw [decodeFrom.eq_def]
  simp [hfirst, hstray, hb, hc, hd, htwo, hthree]

end

theorem toNat_toUInt8 {n : Nat} (h : n < 256) : n.toUInt8.toNat = n := by
  simp [Nat.toUInt8, UInt8.toNat_ofNat_of_lt' h]

/-- The six bits that a byte after the first carries. -/
def tailByte (n : Nat) : UInt8 := (0x80 + n % 64).toUInt8

theorem toNat_tailByte (n : Nat) : (tailByte n).toNat = 0x80 + n % 64 :=
  toNat_toUInt8 (by omega)

theorem isContinuation_tailByte (n : Nat) : isContinuation (tailByte n) = true := by
  have hbyte := toNat_tailByte n
  simp [isContinuation, UInt8.le_iff_toNat_le, hbyte]
  omega

/-- The second byte that is written lies in the range that the first leaves open. -/
theorem isSecond_tailByte {a : UInt8} {n : Nat} (he0 : a.toNat = 0xe0 → 32 ≤ n % 64)
    (hed : a.toNat = 0xed → n % 64 < 32) (hf0 : a.toNat = 0xf0 → 16 ≤ n % 64)
    (hf4 : a.toNat = 0xf4 → n % 64 < 16) : isSecond a (tailByte n) = true := by
  have hbyte := toNat_tailByte n
  simp only [isSecond, secondRange, ← UInt8.toNat_inj, UInt8.le_iff_toNat_le, UInt8.reduceToNat,
    Bool.and_eq_true, decide_eq_true_eq, hbyte]
  split_ifs with h1 h2 h3 h4 <;> simp <;> omega

theorem encodeChar_two {c : Char} (hlow : 0x80 ≤ c.toNat) (hhigh : c.toNat < 0x800) :
    encodeChar c = [(0xc0 + c.toNat / 64).toUInt8, tailByte c.toNat] := by
  simp only [encodeChar, tailByte, Nat.div_one]
  rw [if_neg (by omega), if_pos hhigh]

theorem encodeChar_three {c : Char} (hlow : 0x800 ≤ c.toNat) (hhigh : c.toNat < 0x10000) :
    encodeChar c = [(0xe0 + c.toNat / 4096).toUInt8, tailByte (c.toNat / 64), tailByte c.toNat] := by
  simp only [encodeChar, tailByte, Nat.div_one]
  rw [if_neg (by omega), if_neg (by omega), if_pos hhigh]

theorem encodeChar_four {c : Char} (hlow : 0x10000 ≤ c.toNat) :
    encodeChar c = [(0xf0 + c.toNat / 262144).toUInt8, tailByte (c.toNat / 4096),
      tailByte (c.toNat / 64), tailByte c.toNat] := by
  simp only [encodeChar, tailByte, Nat.div_one]
  rw [if_neg (by omega), if_neg (by omega), if_neg (by omega)]

/-- Decoding takes the bytes of a character off the front. -/
theorem decodeFrom_encodeChar (c : Char) (position : Nat) (done : List Char) (rest : List UInt8) :
    decodeFrom position done (encodeChar c ++ rest) =
      decodeFrom (position + (encodeChar c).length) (c :: done) rest := by
  have hvalid : c.toNat < 0xd800 ∨ (0xdfff < c.toNat ∧ c.toNat < 0x110000) := c.valid
  have hchar := Char.ofNat_toNat c
  by_cases hone : c.toNat < 0x80
  · have hbytes : encodeChar c = [c.toNat.toUInt8] := by
      simp only [encodeChar]
      rw [if_pos hone]
    have hbyte : c.toNat.toUInt8.toNat = c.toNat := toNat_toUInt8 (by omega)
    rw [hbytes, List.singleton_append, decodeFrom_one (by omega), hbyte, hchar]
    rfl
  by_cases htwo : c.toNat < 0x800
  · have hbyte : (0xc0 + c.toNat / 64).toUInt8.toNat = 0xc0 + c.toNat / 64 :=
      toNat_toUInt8 (by omega)
    have hsecond : isSecond (0xc0 + c.toNat / 64).toUInt8 (tailByte c.toNat) = true :=
      isSecond_tailByte (by omega) (by omega) (by omega) (by omega)
    have hcompose : 0xc0 + c.toNat / 64 - 0xc0 = c.toNat / 64 := by omega
    have hvalue : c.toNat / 64 * 64 + (0x80 + c.toNat % 64) % 64 = c.toNat := by omega
    rw [encodeChar_two (by omega) htwo, List.cons_append, List.singleton_append,
      decodeFrom_two (by omega) (by omega) hsecond, hbyte, hcompose]
    simp only [compose, List.foldl_cons, List.foldl_nil, toNat_tailByte, hvalue, hchar]
    rfl
  by_cases hthree : c.toNat < 0x10000
  · have hbyte : (0xe0 + c.toNat / 4096).toUInt8.toNat = 0xe0 + c.toNat / 4096 :=
      toNat_toUInt8 (by omega)
    have hsecond : isSecond (0xe0 + c.toNat / 4096).toUInt8 (tailByte (c.toNat / 64)) = true :=
      isSecond_tailByte (by omega) (by omega) (by omega) (by omega)
    have hcompose : 0xe0 + c.toNat / 4096 - 0xe0 = c.toNat / 4096 := by omega
    have hvalue : (c.toNat / 4096 * 64 + (0x80 + c.toNat / 64 % 64) % 64) * 64 +
        (0x80 + c.toNat % 64) % 64 = c.toNat := by omega
    rw [encodeChar_three (by omega) hthree]
    simp only [List.cons_append, List.nil_append]
    rw [decodeFrom_three (by omega) (by omega) hsecond (isContinuation_tailByte _), hbyte, hcompose]
    simp only [compose, List.foldl_cons, List.foldl_nil, toNat_tailByte, hvalue, hchar]
    rfl
  · have hbyte : (0xf0 + c.toNat / 262144).toUInt8.toNat = 0xf0 + c.toNat / 262144 :=
      toNat_toUInt8 (by omega)
    have hsecond :
        isSecond (0xf0 + c.toNat / 262144).toUInt8 (tailByte (c.toNat / 4096)) = true :=
      isSecond_tailByte (by omega) (by omega) (by omega) (by omega)
    have hcompose : 0xf0 + c.toNat / 262144 - 0xf0 = c.toNat / 262144 := by omega
    have hvalue : ((c.toNat / 262144 * 64 + (0x80 + c.toNat / 4096 % 64) % 64) * 64 +
        (0x80 + c.toNat / 64 % 64) % 64) * 64 + (0x80 + c.toNat % 64) % 64 = c.toNat := by omega
    rw [encodeChar_four (by omega)]
    simp only [List.cons_append, List.nil_append]
    rw [decodeFrom_four (by omega) (by omega) hsecond (isContinuation_tailByte _)
      (isContinuation_tailByte _), hbyte, hcompose]
    simp only [compose, List.foldl_cons, List.foldl_nil, toNat_tailByte, hvalue, hchar]
    rfl

/-- What has been written is read back, character by character. -/
theorem decodeFrom_encode (text : List Char) (position : Nat) (done : List Char) :
    decodeFrom position done (encode text) = .ok (done.reverse ++ text) := by
  induction text generalizing position done with
  | nil => simp [encode, decodeFrom]
  | cons c text ih =>
    rw [encode, List.flatMap_cons, decodeFrom_encodeChar, ← encode, ih]
    simp

/-- Every text can be encoded, and is read back. -/
theorem decode_encode (text : List Char) : decode (encode text) = .ok text :=
  decodeFrom_encode text 0 []

theorem encode_injective : Function.Injective encode := by
  intro text text' h
  have hdecoded := congrArg decode h
  rw [decode_encode, decode_encode] at hdecoded
  exact Except.ok.inj hdecoded

/-- Texts are encoded character by character, so bytes can be cut where a text can. -/
theorem encode_append (before after : List Char) :
    encode (before ++ after) = encode before ++ encode after := List.flatMap_append

/-! ### Bytes that are read -/

section

variable {a b c d : UInt8}

theorem toNat_ofNat {n : Nat} (h : n.isValidChar) : (Char.ofNat n).toNat = n := by
  rw [Char.ofNat, dif_pos h]
  rfl

theorem isContinuation_iff : isContinuation b = true ↔ 0x80 ≤ b.toNat ∧ b.toNat ≤ 0xbf := by
  simp [isContinuation, UInt8.le_iff_toNat_le]

theorem eq_toUInt8 {n : Nat} (h : a.toNat = n) : n.toUInt8 = a := by
  rw [← h]
  simp [Nat.toUInt8]

theorem eq_tailByte {n : Nat} (h : 0x80 + n % 64 = b.toNat) : tailByte n = b := eq_toUInt8 h.symm

/-- The bounds of a second byte, which keep a character from being overlong, a surrogate or too
great. -/
theorem bounds_of_isSecond (h : isSecond a b = true) : 0x80 ≤ b.toNat ∧ b.toNat ≤ 0xbf ∧
    (a.toNat = 0xe0 → 0xa0 ≤ b.toNat) ∧ (a.toNat = 0xed → b.toNat ≤ 0x9f) ∧
    (a.toNat = 0xf0 → 0x90 ≤ b.toNat) ∧ (a.toNat = 0xf4 → b.toNat ≤ 0x8f) := by
  simp only [isSecond, secondRange, ← UInt8.toNat_inj, UInt8.le_iff_toNat_le, UInt8.reduceToNat,
    Bool.and_eq_true, decide_eq_true_eq] at h
  split_ifs at h with h1 h2 h3 h4 <;> simp at h <;> omega

theorem encodeChar_compose_one (ha : a.toNat < 0x80) : encodeChar (Char.ofNat a.toNat) = [a] := by
  have hvalue : (Char.ofNat a.toNat).toNat = a.toNat := toNat_ofNat (by unfold Nat.isValidChar; omega)
  simp only [encodeChar, hvalue]
  rw [if_pos ha, eq_toUInt8 rfl]

/-- A character of two bytes that is read is written in the same two bytes. -/
theorem encodeChar_compose_two (hlow : 0xc2 ≤ a.toNat) (hhigh : a.toNat < 0xe0)
    (hb : isSecond a b = true) : encodeChar (compose (a.toNat - 0xc0) [b]) = [a, b] := by
  have hbounds := bounds_of_isSecond hb
  have hvalue : (compose (a.toNat - 0xc0) [b]).toNat = (a.toNat - 0xc0) * 64 + b.toNat % 64 :=
    toNat_ofNat (by simp only [Nat.isValidChar, List.foldl_cons, List.foldl_nil]; omega)
  rw [encodeChar_two (by omega) (by omega), hvalue, eq_toUInt8 (a := a) (by omega),
    eq_tailByte (b := b) (by omega)]

/-- Overlong forms and surrogates are refused, so a character of three bytes is written as it was
read. -/
theorem encodeChar_compose_three (hlow : 0xe0 ≤ a.toNat) (hhigh : a.toNat < 0xf0)
    (hb : isSecond a b = true) (hc : isContinuation c = true) :
    encodeChar (compose (a.toNat - 0xe0) [b, c]) = [a, b, c] := by
  have hbounds := bounds_of_isSecond hb
  have hcont := isContinuation_iff.mp hc
  have hvalue : (compose (a.toNat - 0xe0) [b, c]).toNat =
      ((a.toNat - 0xe0) * 64 + b.toNat % 64) * 64 + c.toNat % 64 :=
    toNat_ofNat (by simp only [Nat.isValidChar, List.foldl_cons, List.foldl_nil]; omega)
  rw [encodeChar_three (by omega) (by omega), hvalue, eq_toUInt8 (a := a) (by omega),
    eq_tailByte (b := b) (by omega), eq_tailByte (b := c) (by omega)]

/-- The same for four bytes, which reach no further than the last character. -/
theorem encodeChar_compose_four (hlow : 0xf0 ≤ a.toNat) (hhigh : a.toNat ≤ 0xf4)
    (hb : isSecond a b = true) (hc : isContinuation c = true) (hd : isContinuation d = true) :
    encodeChar (compose (a.toNat - 0xf0) [b, c, d]) = [a, b, c, d] := by
  have hbounds := bounds_of_isSecond hb
  have hcont := isContinuation_iff.mp hc
  have hcont' := isContinuation_iff.mp hd
  have hvalue : (compose (a.toNat - 0xf0) [b, c, d]).toNat =
      (((a.toNat - 0xf0) * 64 + b.toNat % 64) * 64 + c.toNat % 64) * 64 + d.toNat % 64 :=
    toNat_ofNat (by simp only [Nat.isValidChar, List.foldl_cons, List.foldl_nil]; omega)
  rw [encodeChar_four (by omega), hvalue, eq_toUInt8 (a := a) (by omega),
    eq_tailByte (b := b) (by omega), eq_tailByte (b := c) (by omega), eq_tailByte (b := d) (by omega)]

theorem written_cons {c : Char} {done text : List Char} {bytes rest : List UInt8}
    (hc : encodeChar c = bytes) (h : ∃ more, text = (c :: done).reverse ++ more ∧ rest = encode more) :
    ∃ more, text = done.reverse ++ more ∧ bytes ++ rest = encode more := by
  obtain ⟨more, rfl, rfl⟩ := h
  exact ⟨c :: more, by simp, by rw [← hc]; rfl⟩

theorem lead_bounds (h : ¬((a < 0xc2 || 0xf4 < a) = true)) : 0xc2 ≤ a.toNat ∧ a.toNat ≤ 0xf4 := by
  simp only [UInt8.lt_iff_toNat_lt, UInt8.reduceToNat, Bool.or_eq_true, decide_eq_true_eq,
    not_or] at h
  omega

end

/-- What is read was written. -/
theorem written_of_decodeFrom {position : Nat} {done text : List Char} {bytes : List UInt8}
    (h : decodeFrom position done bytes = .ok text) :
    ∃ rest, text = done.reverse ++ rest ∧ bytes = encode rest := by
  fun_induction decodeFrom position done bytes with
  | case1 position done => exact ⟨[], by rw [← Except.ok.inj h]; simp, rfl⟩
  | case3 | case4 | case5 | case7 | case8 | case10 | case11 => contradiction
  | case2 position done a rest hone ih =>
    have ha : a.toNat < 0x80 := by simpa [UInt8.lt_iff_toNat_lt] using hone
    exact written_cons (encodeChar_compose_one ha) (ih h)
  | case6 position done a hone hlead b rest hb htwo ih =>
    obtain ⟨hlow, -⟩ := lead_bounds hlead
    have hhigh : a.toNat < 0xe0 := by simpa [UInt8.lt_iff_toNat_lt] using htwo
    exact written_cons (encodeChar_compose_two hlow hhigh (by simpa using hb)) (ih h)
  | case9 position done a hone hlead b hb htwo c rest hc hthree ih =>
    have hlow : 0xe0 ≤ a.toNat := by simpa [UInt8.lt_iff_toNat_lt] using htwo
    have hhigh : a.toNat < 0xf0 := by simpa [UInt8.lt_iff_toNat_lt] using hthree
    exact written_cons (encodeChar_compose_three hlow hhigh (by simpa using hb) (by simpa using hc))
      (ih h)
  | case12 position done a hone hlead b hb htwo c hc hthree d rest hd ih =>
    have hlow : 0xf0 ≤ a.toNat := by simpa [UInt8.lt_iff_toNat_lt] using hthree
    obtain ⟨-, hhigh⟩ := lead_bounds hlead
    exact written_cons (encodeChar_compose_four hlow hhigh (by simpa using hb) (by simpa using hc)
      (by simpa using hd)) (ih h)

/-- Bytes are read as a text if and only if it is written as them. -/
theorem decode_eq_ok {bytes : List UInt8} {text : List Char} :
    decode bytes = .ok text ↔ bytes = encode text := by
  constructor
  · intro h
    obtain ⟨rest, rfl, hbytes⟩ := written_of_decodeFrom h
    exact hbytes
  · rintro rfl
    exact decode_encode text

/-! ### Parts of a text -/

/-- No character of a text is cut at an offset into its bytes. -/
def IsBoundary (text : List Char) (offset : Nat) : Prop :=
  (encode text).length ≤ offset ∨ ∃ before ∈ text.inits, (encode before).length = offset

instance (text : List Char) (offset : Nat) : Decidable (IsBoundary text offset) :=
  inferInstanceAs (Decidable (_ ∨ _))

/-- What lies between two boundaries is the text of some characters. -/
theorem exists_slice {text : List Char} {start stop : Nat} (hstart : IsBoundary text start)
    (hstop : IsBoundary text stop) :
    ∃ part, ((encode text).drop start).take (stop - start) = encode part := by
  rcases hstart with hbeyond | ⟨before, hbefore, rfl⟩
  · exact ⟨[], by rw [List.drop_eq_nil_of_le hbeyond, List.take_nil]; rfl⟩
  obtain ⟨rest, rfl⟩ := (List.mem_inits _ _).mp hbefore
  rw [encode_append, List.drop_left]
  rcases hstop with hbeyond | ⟨before', hbefore', rfl⟩
  · rw [encode_append, List.length_append] at hbeyond
    exact ⟨rest, List.take_of_length_le (by omega)⟩
  obtain ⟨rest', heq⟩ := (List.mem_inits _ _).mp hbefore'
  rcases List.append_eq_append_iff.mp heq with ⟨part, rfl, rfl⟩ | ⟨part, rfl, rfl⟩
  · refine ⟨[], ?_⟩
    rw [encode_append, List.length_append]
    have hnone : (encode before').length - ((encode before').length + (encode part).length) = 0 := by
      omega
    rw [hnone, List.take_zero]
    rfl
  · refine ⟨part, ?_⟩
    rw [encode_append, List.length_append, Nat.add_sub_cancel_left, encode_append, List.take_left]

end TypeGuards.Encoding.Utf8
