import TypeGuards.Encoding.Blocks
import TypeGuards.Proofs.Encoding.Utf8
/-!
UTF-8 read block by block. Where a character is cut, its first bytes wait for the next block, so the
blocks make no difference to which bytes are read, nor to the text they are read as.
-/
namespace TypeGuards.Encoding

namespace Utf8

/-! ### A text that is cut -/

inductive IsCharacter : List UInt8 → Prop
  | one {a : UInt8} : a.toNat < 0x80 → IsCharacter [a]
  | two {a b : UInt8} : 0xc2 ≤ a.toNat → a.toNat < 0xe0 → isSecond a b = true → IsCharacter [a, b]
  | three {a b c : UInt8} : 0xe0 ≤ a.toNat → a.toNat < 0xf0 → isSecond a b = true →
      isContinuation c = true → IsCharacter [a, b, c]
  | four {a b c d : UInt8} : 0xf0 ≤ a.toNat → a.toNat ≤ 0xf4 → isSecond a b = true →
      isContinuation c = true → isContinuation d = true → IsCharacter [a, b, c, d]

theorem isCharacter_encodeChar (c : Char) : IsCharacter (encodeChar c) := by
  have hvalid : c.toNat < 0xd800 ∨ (0xdfff < c.toNat ∧ c.toNat < 0x110000) := c.valid
  by_cases hone : c.toNat < 0x80
  · have hbyte : c.toNat.toUInt8.toNat = c.toNat := toNat_toUInt8 (by omega)
    have hbytes : encodeChar c = [c.toNat.toUInt8] := by
      simp only [encodeChar]
      rw [if_pos hone]
    rw [hbytes]
    exact .one (by omega)
  by_cases htwo : c.toNat < 0x800
  · have hbyte : (0xc0 + c.toNat / 64).toUInt8.toNat = 0xc0 + c.toNat / 64 :=
      toNat_toUInt8 (by omega)
    rw [encodeChar_two (by omega) htwo]
    exact .two (by omega) (by omega) (isSecond_tailByte (by omega) (by omega) (by omega) (by omega))
  by_cases hthree : c.toNat < 0x10000
  · have hbyte : (0xe0 + c.toNat / 4096).toUInt8.toNat = 0xe0 + c.toNat / 4096 :=
      toNat_toUInt8 (by omega)
    rw [encodeChar_three (by omega) hthree]
    exact .three (by omega) (by omega)
      (isSecond_tailByte (by omega) (by omega) (by omega) (by omega)) (isContinuation_tailByte _)
  · have hbyte : (0xf0 + c.toNat / 262144).toUInt8.toNat = 0xf0 + c.toNat / 262144 :=
      toNat_toUInt8 (by omega)
    rw [encodeChar_four (by omega)]
    exact .four (by omega) (by omega)
      (isSecond_tailByte (by omega) (by omega) (by omega) (by omega)) (isContinuation_tailByte _)
      (isContinuation_tailByte _)

variable {position : Nat} {done : List Char} {a b c : UInt8}

/-- An error that the bytes of a character end too early, at a position. -/
def IsCut (position : Nat) (x : Except DecodeError (List Char)) : Prop :=
  ∃ e, x = .error e ∧ e.position = position ∧ e.reason = Blocks.cutReason

/-- The first byte of a longer character, at the end of the bytes, is reported as a cut. -/
theorem decodeFrom_cut_one (hlow : 0xc2 ≤ a.toNat) (hhigh : a.toNat ≤ 0xf4) :
    IsCut position (decodeFrom position done [a]) := by
  obtain ⟨hfirst, hstray⟩ := not_isStray hlow hhigh
  rw [decodeFrom.eq_def]
  simp only [hfirst, hstray, if_false]
  exact ⟨_, rfl, rfl, rfl⟩

/-- Two bytes of a character of three or four are reported as a cut. -/
theorem decodeFrom_cut_two (hlow : 0xe0 ≤ a.toNat) (hhigh : a.toNat ≤ 0xf4)
    (hb : isSecond a b = true) : IsCut position (decodeFrom position done [a, b]) := by
  obtain ⟨hfirst, hstray⟩ := not_isStray (a := a) (by omega) hhigh
  have htwo : ¬ a < 0xe0 := by simpa [UInt8.lt_iff_toNat_lt] using hlow
  rw [decodeFrom.eq_def]
  simp only [hfirst, hstray, hb, htwo, if_false, Bool.not_true]
  exact ⟨_, rfl, rfl, rfl⟩

/-- Three bytes of a character of four are reported as a cut. -/
theorem decodeFrom_cut_three (hlow : 0xf0 ≤ a.toNat) (hhigh : a.toNat ≤ 0xf4)
    (hb : isSecond a b = true) (hc : isContinuation c = true) :
    IsCut position (decodeFrom position done [a, b, c]) := by
  obtain ⟨hfirst, hstray⟩ := not_isStray (a := a) (by omega) hhigh
  have htwo : ¬ a < 0xe0 := by
    simp only [UInt8.lt_iff_toNat_lt, UInt8.reduceToNat]
    omega
  have hthree : ¬ a < 0xf0 := by simpa [UInt8.lt_iff_toNat_lt] using hlow
  rw [decodeFrom.eq_def]
  simp only [hfirst, hstray, hb, hc, htwo, hthree, if_false, Bool.not_true]
  exact ⟨_, rfl, rfl, rfl⟩

/-- The first bytes of a character without its last ones. -/
theorem decodeFrom_cut {bytes part rest : List UInt8} (h : IsCharacter bytes)
    (hbytes : part ++ rest = bytes) (hpart : part ≠ []) (hrest : rest ≠ []) :
    IsCut position (decodeFrom position done part) := by
  have hlength : part.length + rest.length = bytes.length := by
    rw [← hbytes, List.length_append]
  have hshort : part.length < bytes.length := by
    have := List.length_pos_iff.mpr hrest
    omega
  have htake : part = bytes.take part.length := by
    rw [← hbytes, List.take_left]
  have hpos : 0 < part.length := List.length_pos_iff.mpr hpart
  generalize part.length = n at htake hshort hpos
  subst htake
  cases h with
  | one ha =>
    have : n < 1 := hshort
    omega
  | two hlow hhigh hb =>
    have hn : n = 1 := by
      have : n < 2 := hshort
      omega
    rw [hn]
    exact decodeFrom_cut_one hlow (by omega)
  | three hlow hhigh hb hc =>
    have hn : n = 1 ∨ n = 2 := by
      have : n < 3 := hshort
      omega
    rcases hn with hn | hn
    · rw [hn]
      exact decodeFrom_cut_one (by omega) (by omega)
    · rw [hn]
      exact decodeFrom_cut_two hlow (by omega) hb
  | four hlow hhigh hb hc hd =>
    have hn : n = 1 ∨ n = 2 ∨ n = 3 := by
      have : n < 4 := hshort
      omega
    rcases hn with hn | hn | hn
    · rw [hn]
      exact decodeFrom_cut_one (by omega) hhigh
    · rw [hn]
      exact decodeFrom_cut_two (by omega) hhigh hb
    · rw [hn]
      exact decodeFrom_cut_three hlow hhigh hb hc

/-- The first bytes of a text are those of some characters, or they cut the one after those. -/
theorem decodeFrom_front {text : List Char} {block rest : List UInt8}
    (h : encode text = block ++ rest) (position : Nat) (done : List Char) :
    (∃ before after, text = before ++ after ∧ block = encode before ∧ rest = encode after) ∨
    ∃ before after part, text = before ++ after ∧ block = encode before ++ part ∧
      encode after = part ++ rest ∧
      IsCut (position + (encode before).length) (decodeFrom position done block) := by
  induction text generalizing block position done with
  | nil =>
    obtain ⟨rfl, rfl⟩ := List.append_eq_nil_iff.mp h.symm
    exact Or.inl ⟨[], [], rfl, rfl, rfl⟩
  | cons c text ih =>
    have hcons : encode (c :: text) = encodeChar c ++ encode text := rfl
    have hone : encode [c] = encodeChar c := by
      rw [encode, List.flatMap_singleton]
    rw [hcons] at h
    rcases List.append_eq_append_iff.mp h with ⟨more, rfl, hmore⟩ | ⟨missing, hc, rfl⟩
    · rcases ih hmore (position + (encodeChar c).length) (c :: done) with
        ⟨before, after, rfl, rfl, rfl⟩ | ⟨before, after, part, rfl, rfl, hafter, hcut⟩
      · exact Or.inl ⟨c :: before, after, rfl, rfl, rfl⟩
      · refine Or.inr ⟨c :: before, after, part, rfl, ?_, hafter, ?_⟩
        · rw [← List.append_assoc]
          rfl
        · have hlength : (encode (c :: before)).length =
              (encodeChar c).length + (encode before).length := List.length_append
          rw [decodeFrom_encodeChar, hlength, ← Nat.add_assoc]
          exact hcut
    · by_cases hblock : block = []
      · rw [hblock] at hc ⊢
        exact Or.inl ⟨[], c :: text, rfl, rfl, by rw [hcons, hc]; rfl⟩
      by_cases hmissing : missing = []
      · rw [hmissing, List.append_nil] at hc
        exact Or.inl ⟨[c], text, rfl, by rw [hone, hc], by rw [hmissing]; rfl⟩
      · refine Or.inr ⟨[], c :: text, block, rfl, rfl, ?_, ?_⟩
        · rw [hcons, hc, List.append_assoc]
        · exact decodeFrom_cut (isCharacter_encodeChar c) hc.symm hblock hmissing

end Utf8

namespace Blocks

open Utf8

variable {fuel : Nat} {kept bytes : List UInt8} {done text : List Char}

/-- There is fuel for every block and one more, also after a block. -/
theorem fuel_of_next (hfuel : bytes.length + blockSize ≤ blockSize * (fuel + 1)) (h : bytes ≠ []) :
    (bytes.drop blockSize).length + blockSize ≤ blockSize * fuel := by
  have hpos := List.length_pos_iff.mpr h
  rw [List.length_drop]
  unfold blockSize at *
  omega

theorem append_block : kept ++ bytes = kept ++ bytes.take blockSize ++ bytes.drop blockSize := by
  rw [List.append_assoc, List.take_append_drop]

theorem ne_nil_of_drop (h : bytes.drop blockSize ≠ []) : bytes ≠ [] := by
  rintro rfl
  exact h List.drop_nil

/-- Bytes that are read are those kept and those that follow, written. -/
theorem written_of_decodeFrom (hfuel : bytes.length + blockSize ≤ blockSize * fuel)
    (h : decodeFrom fuel kept done bytes = .ok text) :
    ∃ more, text = done ++ more ∧ kept ++ bytes = encode more := by
  induction fuel generalizing kept done bytes with
  | zero =>
    unfold blockSize at hfuel
    omega
  | succ fuel ih =>
    rw [decodeFrom] at h
    rw [append_block]
    generalize kept ++ bytes.take blockSize = block at h ⊢
    cases hblock : Utf8.decode block with
    | ok chars =>
      have hchars := Utf8.decode_eq_ok.mp hblock
      simp only [hblock] at h
      by_cases hrest : bytes.drop blockSize = []
      · rw [if_pos hrest] at h
        exact ⟨chars, (Except.ok.inj h).symm, by rw [hrest, List.append_nil, hchars]⟩
      · rw [if_neg hrest] at h
        obtain ⟨more, rfl, hmore⟩ := ih (fuel_of_next hfuel (ne_nil_of_drop hrest)) h
        exact ⟨chars ++ more, List.append_assoc .., by rw [encode_append, ← hchars, ← hmore]; rfl⟩
    | error e =>
      simp only [hblock] at h
      split_ifs at h with hcut hbytes
      cases hfront : Utf8.decode (block.take e.position) with
      | error cause => simp [hfront] at h
      | ok chars =>
        have hchars := Utf8.decode_eq_ok.mp hfront
        simp only [hfront] at h
        obtain ⟨more, rfl, hmore⟩ := ih (fuel_of_next hfuel hbytes) h
        refine ⟨chars ++ more, List.append_assoc .., ?_⟩
        rw [encode_append, ← hchars, ← hmore, ← List.append_assoc, List.take_append_drop]

/-- The bytes of a text are read to their end: a block ends with a character, or it cuts one whose first
bytes are kept. -/
theorem decodeFrom_of_written (hfuel : bytes.length + blockSize ≤ blockSize * fuel)
    (h : kept ++ bytes = encode text) : decodeFrom fuel kept done bytes = .ok (done ++ text) := by
  induction fuel generalizing kept done bytes text with
  | zero =>
    unfold blockSize at hfuel
    omega
  | succ fuel ih =>
    have hnext : bytes ≠ [] → (bytes.drop blockSize).length + blockSize ≤ blockSize * fuel :=
      fuel_of_next hfuel
    have hlast : bytes.drop blockSize ≠ [] → bytes ≠ [] := ne_nil_of_drop
    rw [append_block] at h
    rw [decodeFrom]
    generalize kept ++ bytes.take blockSize = block at h ⊢
    generalize bytes.drop blockSize = rest at hnext hlast h ⊢
    rcases decodeFrom_front h.symm 0 [] with
      ⟨before, after, rfl, rfl, rfl⟩ | ⟨before, after, part, rfl, rfl, hafter, e, he, hposition, hreason⟩
    · simp only [decode_encode]
      by_cases hrest : encode after = []
      · have hnil : after = [] := encode_injective hrest
        rw [if_pos hrest, hnil, List.append_nil]
      · rw [if_neg hrest, ih (hnext (hlast hrest)) rfl, List.append_assoc]
    · have hcut : Utf8.decode (encode before ++ part) = .error e := he
      have hbytes : bytes ≠ [] := by
        apply hlast
        rintro rfl
        rw [List.append_nil] at h
        rw [h, decode_encode] at hcut
        exact nomatch hcut
      have htake : (encode before ++ part).take e.position = encode before := by
        rw [hposition, Nat.zero_add, List.take_left]
      have hdrop : (encode before ++ part).drop e.position = part := by
        rw [hposition, Nat.zero_add, List.drop_left]
      simp only [hcut, hreason, hbytes, htake, hdrop, decode_encode, ne_eq, not_true_eq_false,
        if_false]
      rw [ih (hnext hbytes) hafter.symm, List.append_assoc]

/-- The bytes of a file are read as a text if and only if it is written as them. -/
theorem decode_eq_ok : decode bytes = .ok text ↔ bytes = encode text := by
  have hfuel : bytes.length + blockSize ≤ blockSize * (bytes.length / blockSize + 2) := by
    unfold blockSize
    omega
  constructor
  · intro h
    obtain ⟨more, rfl, hmore⟩ := written_of_decodeFrom hfuel h
    exact hmore
  · intro h
    exact decodeFrom_of_written hfuel h

end Blocks

end TypeGuards.Encoding
