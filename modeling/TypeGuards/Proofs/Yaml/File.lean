import TypeGuards.Proofs.Encoding.Blocks
import TypeGuards.Yaml.File
/-!
What comes of a YAML file: it cannot be read, it is no text, or it is as its text.
-/
namespace TypeGuards.Yaml

open Encoding

variable {platform : Platform} {fs : Files} {dir p : Path} {bytes : List UInt8} {text : List Char}

theorem loadFile_of_unreadable {e : AccessError} (h : fs.read dir p = .error e) :
    loadFile fs dir p = .error (.access e) := by
  rw [loadFile, h]
  rfl

theorem loadFile_of_undecodable {e : DecodeError} (h : fs.read dir p = .ok bytes)
    (hdecode : Blocks.decode bytes = .error e) : loadFile fs dir p = .error (.undecodable e) := by
  rw [loadFile, h]
  simp only [Except.mapError, bind, Except.bind, hdecode]

theorem loadFile_of_text (h : fs.read dir p = .ok (Utf8.encode text)) :
    loadFile fs dir p = (load (joinLineEndings text)).mapError .content := by
  rw [loadFile, h]
  simp only [Except.mapError, bind, Except.bind, Blocks.decode_eq_ok.mpr rfl]

inductive Loads [Platform] (fs : Files) (dir p : Path) : Except FileError Stored → Prop
  | unreadable {e : AccessError} : fs.read dir p = .error e → Loads fs dir p (.error (.access e))
  | undecodable {bytes : List UInt8} {e : DecodeError} : fs.read dir p = .ok bytes →
      (∀ text, bytes ≠ Utf8.encode text) → Loads fs dir p (.error (.undecodable e))
  | text {text : List Char} : fs.read dir p = .ok (Utf8.encode text) →
      Loads fs dir p ((load (joinLineEndings text)).mapError .content)

/-- A file is loaded, or fails to be, in one of the listed ways. -/
theorem loads (fs : Files) (dir p : Path) : Loads fs dir p (loadFile fs dir p) := by
  cases hread : fs.read dir p with
  | error e =>
    rw [loadFile_of_unreadable hread]
    exact .unreadable hread
  | ok bytes =>
    cases hdecode : Blocks.decode bytes with
    | error e =>
      rw [loadFile_of_undecodable hread hdecode]
      refine .undecodable hread ?_
      intro text htext
      rw [Blocks.decode_eq_ok.mpr htext] at hdecode
      contradiction
    | ok text =>
      obtain rfl := Blocks.decode_eq_ok.mp hdecode
      rw [loadFile_of_text hread]
      exact .text hread

end TypeGuards.Yaml
