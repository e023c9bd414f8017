import TypeGuards.Proofs.Action
import TypeGuards.Proofs.Encoding.Codec
import TypeGuards.Proofs.Files
import TypeGuards.Run
/-!
Reading sources comes before all else. A run with a path that leads to no file, or to a file that
cannot be read, aborts before it has changed or shown anything; what it aborts with tells which paths
are missing or, if none is, what is wrong with the first file that cannot be read.
-/
namespace TypeGuards

namespace Source

open Encoding

variable {fs : Files} {dir p : Path} {paths : List Path} {encoding : String}

/-- A path leads to a file that can be read and whose bytes stand for a text. -/
def Readable [Platform] (fs : Files) (dir : Path) (encoding : String) (p : Path) : Prop :=
  ∃ bytes scheme chars, fs.read dir p = .ok bytes ∧ lookUpText encoding = .ok scheme ∧
    scheme.decode bytes = .ok chars

/-- What is wrong with a file that is there and cannot be read: it cannot be opened, texts are not read
in the encoding, or the open file cannot be read or decoded. -/
inductive Fault [Platform] (fs : Files) (dir : Path) (encoding : String) (p : Path) : Abort → Prop
  | shut {r : Refusal} : fs.refusal? dir p = some r → r.isShut = true →
      Fault fs dir encoding p (.failure (.unreadable p (.access ⟨.refused r, p⟩)))
  | encoding {e : CodecError} : (∀ r, fs.refusal? dir p = some r → r.isShut = false) →
      lookUpText encoding = .error e → Fault fs dir encoding p (.codec e)
  | refused {r : Refusal} {scheme : Scheme} : fs.refusal? dir p = some r → r.isShut = false →
      lookUpText encoding = .ok scheme →
      Fault fs dir encoding p (.failure (.unreadable p (.access ⟨.refused r, p⟩)))
  | undecodable {bytes : List UInt8} {scheme : Scheme} {e : DecodeError} :
      fs.read dir p = .ok bytes → lookUpText encoding = .ok scheme →
      scheme.decode bytes = .error (.undecodable e) →
      Fault fs dir encoding p (.failure (.unreadable p (.undecodable e)))
  | other {bytes : List UInt8} {scheme : Scheme} {e : CodecError} :
      fs.read dir p = .ok bytes → lookUpText encoding = .ok scheme →
      scheme.decode bytes = .error e → (∀ d, e ≠ .undecodable d) → Fault fs dir encoding p (.codec e)

/-- The paths that are reported missing are those that lead to no file. -/
theorem missing_eq (h : ∀ p ∈ paths, fs.Testable dir p) :
    missing fs dir paths = .ok (paths.filter fun p => fs.file? dir p = none) := by
  induction paths with
  | nil => rfl
  | cons p rest ih =>
    obtain ⟨hp, hrest⟩ := List.forall_mem_cons.mp h
    rw [missing, Files.isFile_eq hp, ih hrest]
    cases hfile : fs.file? dir p <;> simp [hfile, bind, Except.bind, pure, Except.pure]

theorem require_eq_ok (h : ∀ p ∈ paths, fs.Testable dir p) (hne : paths ≠ [])
    (hfile : ∀ p ∈ paths, fs.file? dir p ≠ none) : require fs dir paths = .ok () := by
  have hnone : (paths.filter fun p => fs.file? dir p = none) = [] := by
    simpa [List.filter_eq_nil_iff] using hfile
  simp [require, missing_eq h, hnone, hne]

/-- A run without paths, or with one that leads to no file, is refused as a whole. -/
theorem require_eq_error (h : ∀ p ∈ paths, fs.Testable dir p)
    (hbad : paths = [] ∨ ∃ p ∈ paths, fs.file? dir p = none) : ∃ message, require fs dir paths =
      .error (.failure (.usage message (paths.filter fun p => fs.file? dir p = none))) := by
  rcases hbad with rfl | ⟨p, hp, hnone⟩
  · exact ⟨_, rfl⟩
  · have hmem : p ∈ paths.filter fun p => fs.file? dir p = none := by simp [hp, hnone]
    rw [require, if_neg (by simpa using List.ne_nil_of_mem hp), missing_eq h]
    split
    · contradiction
    · rename_i hnil
      rw [Except.ok.inj hnil] at hmem
      exact absurd hmem List.not_mem_nil
    · rename_i absent _ heq
      rw [← Except.ok.inj heq]
      exact ⟨_, rfl⟩

variable {platform : Platform}

theorem Readable.exists_file (h : Readable fs dir encoding p) :
    ∃ bytes, fs.file? dir p = some bytes := by
  obtain ⟨bytes, scheme, chars, hread, -⟩ := h
  exact ⟨bytes, (Files.read_eq_ok.mp hread).1⟩

theorem Readable.testable (h : Readable fs dir encoding p) : fs.Testable dir p := by
  obtain ⟨bytes, hfile⟩ := h.exists_file
  exact Files.testable_of_file? hfile

/-- The text of a file that is opened and read. -/
theorem textOf_of_read {bytes : List UInt8} (h : fs.read dir p = .ok bytes) :
    textOf fs dir encoding p = do
      let scheme ← (lookUpText encoding).mapError Abort.codec
      let chars ← (scheme.decode bytes).mapError fun
        | .undecodable e => unreadable p (.undecodable e)
        | e => Abort.codec e
      return String.ofList (joinLineEndings chars) := by
  obtain ⟨hfile, hrefusal⟩ := Files.read_eq_ok.mp h
  unfold textOf
  rw [Files.opened_of_file? hfile, hrefusal]
  rfl

/-- The text of a file that refuses to be read. -/
theorem textOf_of_refusal {bytes : List UInt8} {r : Refusal} (h : fs.file? dir p = some bytes)
    (hrefusal : fs.refusal? dir p = some r) : textOf fs dir encoding p =
      if r.isShut then .error (.failure (.unreadable p (.access ⟨.refused r, p⟩)))
      else match lookUpText encoding with
        | .error e => .error (.codec e)
        | .ok _ => .error (.failure (.unreadable p (.access ⟨.refused r, p⟩))) := by
  unfold textOf
  rw [Files.opened_of_file? h, hrefusal]
  dsimp only
  split_ifs
  · rfl
  · rcases lookUpText encoding with e | scheme <;> rfl

/-- A readable file has a text. -/
theorem exists_textOf (h : Readable fs dir encoding p) : ∃ text, textOf fs dir encoding p = .ok text := by
  obtain ⟨bytes, scheme, chars, hread, hscheme, hchars⟩ := h
  refine ⟨String.ofList (joinLineEndings chars), ?_⟩
  simp [textOf_of_read hread, hscheme, hchars, Except.mapError, bind, Except.bind, pure, Except.pure]

theorem readable_of_textOf {text : String} (h : textOf fs dir encoding p = .ok text) :
    Readable fs dir encoding p := by
  obtain ⟨content, hopened, h⟩ := bind_eq_ok.mp h
  obtain ⟨scheme, hscheme, h⟩ := bind_eq_ok.mp h
  obtain ⟨bytes, hbytes, h⟩ := bind_eq_ok.mp h
  obtain ⟨chars, hchars, -⟩ := bind_eq_ok.mp h
  refine ⟨bytes, scheme, chars, ?_, mapError_eq_ok.mp hscheme, mapError_eq_ok.mp hchars⟩
  rw [Files.read, mapError_eq_ok.mp hopened]
  exact mapError_eq_ok.mp hbytes

variable {s t : Progress} {source : Source} {e : Abort}

/-- Reading changes no file and prints nothing, also where it fails. -/
theorem quiet_read (dir : Path) (encoding : String) (p : Path) : (read dir encoding p).Quiet := by
  refine Action.quiet_get.bind fun s => ?_
  split
  · exact Action.quiet_tell.bind fun _ => Action.quiet_pure
  · exact Action.quiet_tell.bind fun _ => Action.quiet_throw
  · exact Action.quiet_throw

theorem read_of_textOf {text : String} (h : textOf s.files dir encoding p = .ok text) :
    ∃ t, (read dir encoding p).Returns s { path := p, text } t := by
  unfold read Action.Returns
  rw [Action.ending_bind, Action.ending_get]
  simp only [h]
  exact ⟨_, rfl⟩

theorem aborts_of_textOf (h : textOf s.files dir encoding p = .error e) :
    ∃ t, (read dir encoding p).Aborts s e t := by
  unfold read Action.Aborts
  rw [Action.ending_bind, Action.ending_get]
  simp only [h]
  split
  · contradiction
  · rename_i heq
    rw [Except.error.inj heq]
    exact ⟨_, rfl⟩
  · rename_i heq
    rw [Except.error.inj heq]
    exact ⟨_, rfl⟩

end Source

open Source

section

variable {platform : Platform} {parser : TypeScript.Parser} {c : Config} {dir : Path}
  {paths : List Path} {s : Progress}

/-- A run that is refused has done nothing. -/
theorem run_aborts_of_require {e : Abort} (h : require s.files dir paths = .error e) :
    (run c dir paths parser).Aborts s e s := by
  unfold run
  refine Action.aborts_bind.mpr (Or.inr ⟨s, s, rfl, Action.aborts_bind.mpr (Or.inl ?_)⟩)
  exact Action.aborts_orAbort.mpr ⟨⟨e, h, rfl⟩, rfl⟩

end

end TypeGuards
