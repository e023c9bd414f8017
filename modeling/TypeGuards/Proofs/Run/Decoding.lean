import TypeGuards.Proofs.Config.Field
import TypeGuards.Proofs.Encoding.Codec
import TypeGuards.Proofs.Parts
import TypeGuards.Proofs.Run.Reading
/-!
Reading a file in the encoding of a valid configuration. An encoding is valid if it is known, but that
is not enough to read with it: one that is no encoding of texts reads no file, and decoding can fail
otherwise than for bytes at fault, as it does for a text in UTF-16 without a mark. All else that can go
wrong is a failure of the file.
-/
namespace TypeGuards

open Encoding

/-! ### Valid encodings -/

/-- The encoding of a configuration is in the registry. -/
theorem Config.exists_scheme [Platform] {d : Data} {c : Config} (h : Config.ofData d = .ok c) :
    ∃ scheme, lookUp c.encoding = .ok scheme := by
  unfold ofData at h
  split at h
  · rename_i found hcheck
    obtain rfl := Except.ok.inj h
    obtain ⟨entries, -, hentries⟩ := bind_eq_ok.mp hcheck
    have hfield := (ofEntries_eq_ok.mp hentries).1 .encoding
    unfold Checked.field at hfield
    split at hfield
    · obtain ⟨-, hscheme⟩ := (Field.check_eq_ok .encoding).mp (Checked.under_eq_ok.mp hfield)
      exact hscheme
    · have hdefault : found.encoding = "utf-8" := (Except.ok.inj hfield).symm
      rw [hdefault]
      exact ⟨_, lookUp_utf8⟩
  · contradiction

/-- A configuration that states nothing but a known encoding is valid. -/
theorem Config.ofData_encoding [Platform] {name : String} {scheme : Scheme}
    (h : lookUp name = .ok scheme) :
    Config.ofData (.map [(.text "encoding", .text name)]) = .ok { encoding := name } := by
  have hfound : ∀ f : Field, Data.find? [(.text "encoding", Data.text name)] f.name =
      if f = .encoding then some (.text name) else none := by
    intro f
    rw [Data.find?_cons]
    cases f <;> simp [Field.name, Data.find?]
  have hentries : ofEntries [(.text "encoding", .text name)] = .ok { encoding := name } := by
    refine ofEntries_eq_ok.mpr ⟨fun f => ?_, others_eq_nil.mpr ?_⟩
    · unfold Checked.field
      rw [hfound]
      by_cases hf : f = .encoding
      · subst hf
        exact Checked.under_eq_ok.mpr ((Field.check_eq_ok .encoding).mpr ⟨.text name, scheme, h⟩)
      · rw [if_neg hf]
        cases f with
        | encoding => exact absurd rfl hf
        | pattern | outputDir | dialect | debug => rfl
    · simp only [List.forall_mem_cons]
      exact ⟨⟨.encoding, rfl⟩, List.forall_mem_nil _⟩
  have hcheck : check (.map [(.text "encoding", .text name)]) = .ok { encoding := name } := hentries
  unfold ofData
  rw [hcheck]

namespace Encoding

/-! ### What decoding comes to -/

/-- The line endings of a text: first the pairs become newlines, then what is left of them. -/
theorem joinLineEndings_eq (chars : List Char) : joinLineEndings chars =
    Text.replaceAll ['\r'] ['\n'] (Text.replaceAll ['\r', '\n'] ['\n'] chars) := by
  fun_induction joinLineEndings chars with
  | case1 => simp [Text.replaceAll]
  | case2 rest ih => simp [Text.replaceAll, ih]
  | case3 rest hrest ih =>
    have hpair : ¬['\r', '\n'] <+: '\r' :: rest := by
      rintro ⟨tail, htail⟩
      exact hrest tail (List.cons.inj htail).2.symm
    rw [Text.replaceAll_cons_of_not_begins hpair]
    simp [Text.replaceAll, ih]
  | case4 c rest hpair hsingle ih =>
    have hc : c ≠ '\r' := fun hc => hsingle hc
    simp [Text.replaceAll, ih, Ne.symm hc]

/-- Decoding some bytes fails at most for bytes at fault. -/
def Scheme.Suits (scheme : Scheme) (bytes : List UInt8) : Prop :=
  ∀ e, scheme.decode bytes = .error e → ∃ cause, e = .undecodable cause

theorem Codec.suits_of_mapError {codec : Codec} {bytes : List UInt8} {r : Except DecodeError (List Char)}
    (h : codec.decode bytes = r.mapError .undecodable) : codec.scheme.Suits bytes := by
  intro e he
  have hfailed : r.mapError .undecodable = .error e := h.symm.trans he
  cases r with
  | ok chars => contradiction
  | error cause => exact ⟨cause, (Except.error.inj hfailed).symm⟩

/-- Of the seven codecs, two can fail otherwise: the one that is none for texts, and UTF-16 where a text
has no mark. -/
theorem Codec.suits_iff (codec : Codec) (bytes : List UInt8) :
    codec.scheme.Suits bytes ↔ codec ≠ .hex ∧ ¬(codec = .utf16 ∧ Utf16.Unmarked bytes) := by
  cases codec with
  | utf8 | utf8Marked | latin1 | ascii | western =>
    exact iff_of_true (suits_of_mapError rfl) ⟨by decide, fun h => by simp at h⟩
  | hex =>
    refine iff_of_false (fun hsuits => ?_) fun h => h.1 rfl
    obtain ⟨cause, hcause⟩ := hsuits (.notForText "hex") rfl
    contradiction
  | utf16 =>
    rw [← Utf16.decode_eq_unmarked]
    have hdecode : Codec.utf16.scheme.decode bytes = Codec.utf16.decode bytes := rfl
    unfold Scheme.Suits
    rw [hdecode, Codec.decode]
    cases Utf16.decode bytes <;> simp

end Encoding

namespace Source

section

variable {platform : Platform} {s : Progress} {dir p : Path} {encoding : String} {c : Config}
  {scheme : Scheme} {bytes : List UInt8}

def withNewlines (chars : List Char) : String :=
  String.ofList (Text.replaceAll ['\r'] ['\n'] (Text.replaceAll ['\r', '\n'] ['\n'] chars))

/-- Reading gives the text of a file, or fails as a file that cannot be read or decoded. -/
inductive Reads [Platform] (s : Progress) (dir : Path) (encoding : String) (scheme : Scheme) (p : Path)
    (bytes : List UInt8) : Prop
  | text {chars : List Char} {t : Progress} : scheme.decode bytes = .ok chars →
      (read dir encoding p).Returns s { path := p, text := withNewlines chars } t →
      Reads s dir encoding scheme p bytes
  | undecodable {e : DecodeError} {t : Progress} : scheme.decode bytes = .error (.undecodable e) →
      (read dir encoding p).Aborts s (.failure (.unreadable p (.undecodable e))) t →
      Reads s dir encoding scheme p bytes
  | refused {r : Refusal} {t : Progress} : s.files.refusal? dir p = some r →
      (read dir encoding p).Aborts s (.failure (.unreadable p (.access ⟨.refused r, p⟩))) t →
      Reads s dir encoding scheme p bytes

/-- What is needed to read a file: that it cannot be opened, or that its encoding is one of texts and the
open file either cannot be read or is decoded without any fault but bytes at fault. -/
def Suits (fs : Files) (dir : Path) (scheme : Scheme) (p : Path) (bytes : List UInt8) : Prop :=
  match fs.refusal? dir p with
  | some r => r.isShut ∨ scheme.isForText
  | none => scheme.isForText ∧ scheme.Suits bytes

/-- What else ends the reading: the encoding is none of texts, or decoding fails in another way. -/
inductive Breaks (encoding : String) (scheme : Scheme) (bytes : List UInt8) : CodecError → Prop
  | notForText : scheme.isForText = false → Breaks encoding scheme bytes (.notForText encoding)
  | other {e : CodecError} : scheme.isForText → scheme.decode bytes = .error e →
      (∀ cause, e ≠ .undecodable cause) → Breaks encoding scheme bytes e

/-- What is made of a file whose encoding is known and whose bytes can be had. -/
theorem textOf_eq (hscheme : lookUp encoding = .ok scheme) (hread : s.files.read dir p = .ok bytes) :
    textOf s.files dir encoding p =
      if scheme.isForText then
        match scheme.decode bytes with
        | .ok chars => .ok (withNewlines chars)
        | .error (.undecodable e) => .error (.failure (.unreadable p (.undecodable e)))
        | .error e => .error (.codec e)
      else .error (.codec (.notForText encoding)) := by
  rw [textOf_of_read hread, lookUpText_of_lookUp hscheme]
  split_ifs
  · simp only [Except.mapError, bind, Except.bind, withNewlines, ← joinLineEndings_eq]
    rcases scheme.decode bytes with e | chars
    · cases e <;> rfl
    · rfl
  · rfl

/-- A fault of the codec other than for its bytes is not one of reading. -/
theorem not_reads_of_aborts {e : CodecError} {t : Progress}
    (h : (read dir encoding p).Aborts s (.codec e) t) : ¬Reads s dir encoding scheme p bytes := by
  intro hreads
  cases hreads with
  | text _ hreturns => exact hreturns.not_aborts h
  | undecodable _ haborts =>
    have hends := h.symm.trans haborts
    simp at hends
  | refused _ haborts =>
    have hends := h.symm.trans haborts
    simp at hends

/-- A file that refuses is reported as unreadable, if its encoding is one of texts or it is shut. -/
theorem reads_of_refusal {r : Refusal} (hfile : s.files.file? dir p = some bytes)
    (hrefusal : s.files.refusal? dir p = some r) (hscheme : lookUp encoding = .ok scheme)
    (h : r.isShut ∨ scheme.isForText) : Reads s dir encoding scheme p bytes := by
  have htext : textOf s.files dir encoding p =
      .error (.failure (.unreadable p (.access ⟨.refused r, p⟩))) := by
    rw [textOf_of_refusal hfile hrefusal]
    split_ifs with hshut
    · rfl
    · rw [lookUpText_eq_ok.mpr ⟨hscheme, h.resolve_left hshut⟩]
  obtain ⟨t, ht⟩ := aborts_of_textOf htext
  exact .refused hrefusal ht

/-- A file that can be read is decoded, or reported for its bytes. -/
theorem reads_of_suits (hread : s.files.read dir p = .ok bytes) (hscheme : lookUp encoding = .ok scheme)
    (htext : scheme.isForText) (hsuits : scheme.Suits bytes) : Reads s dir encoding scheme p bytes := by
  have heq := textOf_eq hscheme hread
  rw [if_pos htext] at heq
  cases hdecode : scheme.decode bytes with
  | ok chars =>
    rw [hdecode] at heq
    obtain ⟨t, ht⟩ := read_of_textOf heq
    exact .text hdecode ht
  | error e =>
    obtain ⟨cause, rfl⟩ := hsuits e hdecode
    rw [hdecode] at heq
    obtain ⟨t, ht⟩ := aborts_of_textOf heq
    exact .undecodable hdecode ht

/-- A file is read, or fails as unreadable, or an error of its encoding ends the reading. -/
theorem reads_or_breaks (hfile : s.files.file? dir p = some bytes)
    (hscheme : lookUp encoding = .ok scheme) :
    Suits s.files dir scheme p bytes ∧ Reads s dir encoding scheme p bytes ∨
      ¬Suits s.files dir scheme p bytes ∧ ∃ e t, Breaks encoding scheme bytes e ∧
        (read dir encoding p).Aborts s (.codec e) t := by
  unfold Suits
  cases hrefusal : s.files.refusal? dir p with
  | some r =>
    dsimp only
    by_cases h : r.isShut ∨ scheme.isForText
    · exact Or.inl ⟨h, reads_of_refusal hfile hrefusal hscheme h⟩
    · obtain ⟨hopen, hother⟩ := not_or.mp h
      have htext : textOf s.files dir encoding p = .error (.codec (.notForText encoding)) := by
        rw [textOf_of_refusal hfile hrefusal, if_neg hopen, lookUpText_of_lookUp hscheme, if_neg hother]
      obtain ⟨t, ht⟩ := aborts_of_textOf htext
      exact Or.inr ⟨h, _, t, .notForText (by simpa using hother), ht⟩
  | none =>
    have hread := Files.read_eq_ok.mpr ⟨hfile, hrefusal⟩
    have heq := textOf_eq hscheme hread
    dsimp only
    by_cases hfor : scheme.isForText
    · by_cases hsuits : scheme.Suits bytes
      · exact Or.inl ⟨⟨hfor, hsuits⟩, reads_of_suits hread hscheme hfor hsuits⟩
      · refine Or.inr ⟨fun h => hsuits h.2, ?_⟩
        simp only [Scheme.Suits, not_forall] at hsuits
        obtain ⟨e, hdecode, hcause⟩ := hsuits
        have hother : ∀ cause, e ≠ .undecodable cause := fun cause h => hcause ⟨cause, h⟩
        rw [if_pos hfor, hdecode] at heq
        split at heq
        · contradiction
        · rename_i cause hsame
          exact absurd (Except.error.inj hsame) (hother cause)
        · rename_i found hnot hsame
          obtain rfl := Except.error.inj hsame
          obtain ⟨t, ht⟩ := aborts_of_textOf heq
          exact ⟨_, t, .other hfor hdecode hother, ht⟩
    · rw [if_neg hfor] at heq
      obtain ⟨t, ht⟩ := aborts_of_textOf heq
      exact Or.inr ⟨fun h => hfor h.1, _, t, .notForText (by simpa using hfor), ht⟩

/-- With a valid configuration, a file that is there is read or fails as unreadable, unless the encoding
is none for texts or decoding fails otherwise than for bytes at fault. Then an error of the encoding ends
the reading. Of the seven codecs, that is the one that is none for texts, and UTF-16 for a file without
a mark. -/
theorem read_accepted {d : Data} (hvalid : Config.ofData d = .ok c)
    (hfile : s.files.file? dir p = some bytes) : ∃ scheme, lookUp c.encoding = .ok scheme ∧
      (Reads s dir c.encoding scheme p bytes ↔ Suits s.files dir scheme p bytes) ∧
      (¬Suits s.files dir scheme p bytes → ∃ e t, Breaks c.encoding scheme bytes e ∧
        (read dir c.encoding p).Aborts s (.codec e) t) ∧
      ∀ codec, Codec.ofName? c.encoding = some codec → scheme = codec.scheme ∧
        (s.files.refusal? dir p = none → (Reads s dir c.encoding scheme p bytes ↔
          codec ≠ .hex ∧ ¬(codec = .utf16 ∧ Utf16.Unmarked bytes))) := by
  obtain ⟨scheme, hscheme⟩ := Config.exists_scheme hvalid
  have hcases := @reads_or_breaks platform s dir p c.encoding scheme bytes hfile hscheme
  have hiff : Reads s dir c.encoding scheme p bytes ↔ Suits s.files dir scheme p bytes := by
    rcases hcases with ⟨hsuits, hreads⟩ | ⟨hnot, e, t, -, haborts⟩
    · exact iff_of_true hreads hsuits
    · exact iff_of_false (not_reads_of_aborts haborts) hnot
  refine ⟨scheme, hscheme, hiff, fun hnot => ?_, fun codec hname => ?_⟩
  · rcases hcases with ⟨hsuits, -⟩ | ⟨-, hbreaks⟩
    · exact absurd hsuits hnot
    · exact hbreaks
  · obtain rfl := lookUp_eq_of_ofName? hscheme hname
    refine ⟨rfl, fun hnone => ?_⟩
    have htext : codec.scheme.isForText = true ↔ codec ≠ .hex := by simp [Codec.scheme]
    rw [hiff, Suits, hnone, ← codec.suits_iff, htext]
    refine and_iff_right_of_imp fun hsuits => ?_
    exact ((codec.suits_iff bytes).mp hsuits).1

end

def markedFiles : Files :=
  { entries := [(["a.ts"], .file (0xff :: 0xfe :: "type A = 1".toList.flatMap Utf16.encodeChar)),
                (["b.ts"], .file (Utf8.encode "interface B \x7b\x7d".toList))] }

def utf16Data : Data := .map [(.text "encoding", .text "utf-16")]

theorem ofName?_utf16 : Codec.ofName? "utf-16" = some .utf16 := by decide +kernel

theorem lookUp_utf16 : lookUp "utf-16" = .ok Codec.utf16.scheme :=
  lookUp_of_ofName? (by decide +kernel) ofName?_utf16

theorem ofData_utf16 : Config.ofData utf16Data = .ok { encoding := "utf-16" } :=
  Config.ofData_encoding lookUp_utf16

theorem read_accepted_marked : Config.ofData utf16Data = .ok { encoding := "utf-16" } ∧
    ∃ bytes, markedFiles.file? .root (.ofString "a.ts") = some bytes ∧
      Reads { files := markedFiles } .root "utf-16" Codec.utf16.scheme (.ofString "a.ts") bytes := by
  have hbytes : markedFiles.file? .root (.ofString "a.ts") =
      some (0xff :: 0xfe :: "type A = 1".toList.flatMap Utf16.encodeChar) := by decide +kernel
  have hmarked : Utf16.decode (0xff :: 0xfe :: "type A = 1".toList.flatMap Utf16.encodeChar) ≠
      .unmarked := by decide +kernel
  obtain ⟨scheme, -, -, -, hcodec⟩ :=
    read_accepted (s := { files := markedFiles }) ofData_utf16 hbytes
  obtain ⟨rfl, hreads⟩ := hcodec .utf16 ofName?_utf16
  exact ⟨ofData_utf16, _, hbytes,
    (hreads (by decide +kernel)).mpr ⟨by decide, fun h => hmarked (Utf16.decode_eq_unmarked.mpr h.2)⟩⟩

/-- The bytes of a source in UTF-8 can be those of a text in UTF-16. Without a mark they are not read,
and what ends the reading is no failure. -/
theorem read_unmarked : Config.ofData utf16Data = .ok { encoding := "utf-16" } ∧
    ∃ bytes, markedFiles.file? .root (.ofString "b.ts") = some bytes ∧
      (∃ t, (read .root "utf-16" (.ofString "b.ts")).Aborts { files := markedFiles }
        (.codec .unmarked) t) ∧
      ¬Reads { files := markedFiles } .root "utf-16" Codec.utf16.scheme (.ofString "b.ts") bytes := by
  have hbytes : markedFiles.read .root (.ofString "b.ts") =
      .ok (Utf8.encode "interface B \x7b\x7d".toList) := by decide +kernel
  have hunmarked : Utf16.decode (Utf8.encode "interface B \x7b\x7d".toList) = .unmarked := by
    decide +kernel
  have htext := textOf_eq (s := { files := markedFiles }) lookUp_utf16 hbytes
  have hdecode : Codec.utf16.scheme.decode (Utf8.encode "interface B \x7b\x7d".toList) =
      .error .unmarked := by simp only [Codec.scheme, Codec.decode, hunmarked]
  have hfor : Codec.utf16.scheme.isForText = true := rfl
  rw [if_pos hfor, hdecode] at htext
  obtain ⟨t, ht⟩ := aborts_of_textOf (s := { files := markedFiles }) htext
  exact ⟨ofData_utf16, _, (Files.read_eq_ok.mp hbytes).1, ⟨t, ht⟩, not_reads_of_aborts ht⟩

end Source

end TypeGuards
