import Mathlib.Tactic.SplitIfs
import TypeGuards.Platform
import TypeGuards.Proofs.Encoding.Utf16
import TypeGuards.Proofs.Sequence
/-!
Texts read back from their bytes. A codec that writes a text reads that text in the bytes it wrote, the
marks of byte order included; and joining line endings keeps a text that has no carriage return.
-/
namespace TypeGuards.Encoding

variable {text : List Char} {bytes : List UInt8}

namespace SingleByte

variable {e : SingleByte}

/-- A byte that a character is written as stands for that character. -/
def ReadsBack (e : SingleByte) : Prop := ∀ c b, e.ofChar? c = some b → e.toChar? b = some c

/-- What a codec by single bytes has written, it reads back, wherever it starts. -/
theorem decodeFrom_of_encodeFrom (h : e.ReadsBack) {position : Nat} {written : List UInt8}
    (hwritten : e.encodeFrom position written text = .ok bytes) (position' : Nat) (read : List Char) :
    ∃ more, bytes = written.reverse ++ more ∧
      e.decodeFrom position' read more = .ok (read.reverse ++ text) := by
  induction text generalizing position written position' read with
  | nil => exact ⟨[], by rw [← Except.ok.inj hwritten, List.append_nil], by simp [decodeFrom]⟩
  | cons c rest ih =>
    rw [encodeFrom] at hwritten
    cases hbyte : e.ofChar? c with
    | none =>
      rw [hbyte] at hwritten
      contradiction
    | some b =>
      rw [hbyte] at hwritten
      obtain ⟨more, rfl, hmore⟩ := ih hwritten (position' + 1) (c :: read)
      refine ⟨b :: more, by simp, ?_⟩
      rw [decodeFrom, h c b hbyte]
      simpa using hmore

/-- A codec that reads each of its characters back reads back whole texts. -/
theorem decode_of_encode (h : e.ReadsBack) (hwritten : e.encode text = .ok bytes) :
    e.decode bytes = .ok text := by
  obtain ⟨more, rfl, hmore⟩ := decodeFrom_of_encodeFrom h hwritten 0 []
  exact hmore

/-- The codecs of the first characters of Unicode read back what they write. -/
theorem readsBack_below (name : String) {bound : Nat} (hbound : bound ≤ 256) :
    (below name bound).ReadsBack := by
  intro c b hbyte
  simp only [below] at hbyte ⊢
  split at hbyte
  · rename_i hlow
    obtain rfl := Option.some.inj hbyte
    have hvalue : c.toNat.toUInt8.toNat = c.toNat := Utf8.toNat_toUInt8 (by omega)
    rw [hvalue, if_pos hlow, Char.ofNat_toNat]
  · contradiction

theorem length_westernHigh : westernHigh.length = 32 := by decide

/-- The characters outside the set of 256 lie from 0x80 to 0x9f, each at one place. -/
theorem readsBack_western : western.ReadsBack := by
  intro c b hbyte
  simp only [western, Bool.or_eq_true, Bool.and_eq_true, decide_eq_true_eq] at hbyte ⊢
  split at hbyte
  · rename_i hsame
    obtain rfl := Option.some.inj hbyte
    have hvalue : c.toNat.toUInt8.toNat = c.toNat := Utf8.toNat_toUInt8 (by omega)
    rw [hvalue, if_pos (by omega), Char.ofNat_toNat]
  · obtain ⟨i, hplace, hbyte⟩ := Option.bind_eq_some_iff.mp hbyte
    split at hbyte
    · contradiction
    · rename_i hzero
      obtain rfl := Option.some.inj hbyte
      obtain ⟨hi, hfound, -⟩ := List.findIdx?_eq_some_iff_getElem.mp hplace
      have hlength : i < 32 := by rwa [length_westernHigh] at hi
      have hvalue : (0x80 + i).toUInt8.toNat = 0x80 + i := Utf8.toNat_toUInt8 (by omega)
      have hcode : westernHigh.getD i 0 = c.toNat := by
        rw [List.getD_eq_getElem?_getD, List.getElem?_eq_getElem hi, Option.getD_some]
        exact of_decide_eq_true hfound
      rw [hvalue, if_neg (by omega), Nat.add_sub_cancel_left, hcode]
      split
      · contradiction
      · rw [Char.ofNat_toNat]

end SingleByte

/-- Behind the mark, the characters are read as they were written. -/
theorem Utf16.decode_encode (text : List Char) : Utf16.decode (Utf16.encode text) = .text text := by
  have hmark : Utf16.encode text = 0xff :: 0xfe :: text.flatMap Utf16.encodeChar := rfl
  have hunit : Utf16.Order.lowFirst.unit 0xff 0xfe = 0xfeff := by decide
  rw [hmark, Utf16.decode_cons_cons, if_pos hunit, Utf16.decodeFrom_written]
  rfl

namespace Codec

/-- What a codec writes it reads back. -/
theorem decode_of_encode {codec : Codec} (h : codec.encode text = .ok bytes) :
    codec.decode bytes = .ok text := by
  cases codec with
  | utf8 =>
    obtain rfl := Except.ok.inj h
    simp only [decode, Utf8.decode_encode]
    rfl
  | utf8Marked =>
    obtain rfl := Except.ok.inj h
    have hmark : byteOrderMark.isPrefixOf (byteOrderMark ++ Utf8.encode text) = true :=
      List.isPrefixOf_iff_prefix.mpr (List.prefix_append _ _)
    have hrest : (byteOrderMark ++ Utf8.encode text).drop 3 = Utf8.encode text := rfl
    simp only [decode, hmark, if_true, hrest, Utf8.decode_encode]
    rfl
  | utf16 =>
    obtain rfl := Except.ok.inj h
    simp only [decode, Utf16.decode_encode]
  | latin1 =>
    have hread := SingleByte.decode_of_encode (SingleByte.readsBack_below "latin-1" (Nat.le_refl _))
      (mapError_eq_ok.mp h)
    exact mapError_eq_ok.mpr hread
  | ascii =>
    have hread := SingleByte.decode_of_encode (SingleByte.readsBack_below "ascii" (by decide))
      (mapError_eq_ok.mp h)
    exact mapError_eq_ok.mpr hread
  | western =>
    have hread := SingleByte.decode_of_encode SingleByte.readsBack_western (mapError_eq_ok.mp h)
    exact mapError_eq_ok.mpr hread
  | hex => contradiction

end Codec

/-! ### Encodings by their names -/

section

variable {platform : Platform} {name : String} {scheme : Scheme}

/-- A codec that is known is usable for texts exactly if it says so. -/
theorem lookUpText_of_lookUp (h : lookUp name = .ok scheme) :
    lookUpText name = if scheme.isForText then .ok scheme else .error (.notForText name) := by
  rw [lookUpText, h]
  rfl

theorem lookUpText_eq_ok :
    lookUpText name = .ok scheme ↔ lookUp name = .ok scheme ∧ scheme.isForText = true := by
  cases h : lookUp name with
  | error e => simp [lookUpText, h, bind, Except.bind]
  | ok found =>
    rw [lookUpText_of_lookUp h]
    split_ifs with htext
    · simp only [Except.ok.injEq, iff_self_and]
      rintro rfl
      exact htext
    · simp only [Except.ok.injEq, false_iff, not_and]
      rintro rfl
      exact htext

/-- A name of a codec stands for it. -/
theorem lookUp_of_ofName? {codec : Codec} (hnull : Char.ofNat 0 ∉ name.toList)
    (h : Codec.ofName? name = some codec) : lookUp name = .ok codec.scheme := by
  simp only [lookUp, List.contains_iff_mem, hnull, if_false, Platform.scheme?_of_codec name codec h]

/-- The codecs whose tables are known are what the registry gives for their names. -/
theorem lookUp_eq_of_ofName? {codec : Codec} (hscheme : lookUp name = .ok scheme)
    (h : Codec.ofName? name = some codec) : scheme = codec.scheme := by
  have hnull : Char.ofNat 0 ∉ name.toList := by
    intro hnull
    rw [lookUp, if_pos (by simpa using hnull)] at hscheme
    contradiction
  exact Except.ok.inj (hscheme.symm.trans (lookUp_of_ofName? hnull h))

theorem lookUp_utf8 : lookUp "utf-8" = .ok Codec.utf8.scheme :=
  lookUp_of_ofName? (by decide +kernel) (by decide +kernel)

theorem lookUpText_utf8 : lookUpText "utf-8" = .ok Codec.utf8.scheme :=
  lookUpText_eq_ok.mpr ⟨lookUp_utf8, rfl⟩

end

/-- The standard platform knows no encodings but the seven. -/
theorem exists_codec_of_lookUpText {name : String} {scheme : Scheme} (h : lookUpText name = .ok scheme) :
    ∃ codec : Codec, codec.scheme = scheme := by
  have hfound := (lookUpText_eq_ok.mp h).1
  unfold lookUp at hfound
  split_ifs at hfound
  split at hfound
  · rename_i found hcodec
    obtain rfl := Except.ok.inj hfound
    obtain ⟨codec, -, hscheme⟩ := Option.map_eq_some_iff.mp hcodec
    exact ⟨codec, hscheme⟩
  · contradiction

/-- Only a carriage return is changed where line endings are joined. -/
theorem joinLineEndings_eq_self : joinLineEndings text = text ↔ '\r' ∉ text := by
  constructor
  · intro h
    fun_induction joinLineEndings text with
    | case1 => exact List.not_mem_nil
    | case2 | case3 => exact absurd (List.cons.inj h).1 (by decide)
    | case4 c rest _ hsingle ih =>
      rw [List.mem_cons, not_or]
      exact ⟨fun hc => hsingle hc.symm, ih (List.cons.inj h).2⟩
  · intro h
    fun_induction joinLineEndings text with
    | case1 => rfl
    | case2 | case3 => exact absurd List.mem_cons_self h
    | case4 c rest _ _ ih => rw [ih fun hmem => h (List.mem_cons_of_mem c hmem)]

end TypeGuards.Encoding
