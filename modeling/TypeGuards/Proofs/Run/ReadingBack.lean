import TypeGuards.Proofs.Encoding.Codec
import TypeGuards.Proofs.Guard.LineEndings
import TypeGuards.Proofs.Run.Account
import TypeGuards.Proofs.Storing
/-!
Written guards are read back. A file that a text was stored in is read in the same encoding as that
text, if and only if the text has no carriage return. Modules have none where no name and no specifier
has one.
-/
namespace TypeGuards

open Encoding

namespace Source

def ReadsAs (s : Progress) (dir : Path) (encoding : String) (p : Path) (text : String) : Prop :=
  ∃ t, (read dir encoding p).Returns s { path := p, text } t

variable {fs : Files} {dir p : Path} {encoding text : String} {bytes : List UInt8} {codec : Codec}

theorem textOf_of_encode (hread : fs.read dir p = .ok bytes)
    (hcodec : lookUpText encoding = .ok codec.scheme) (hbytes : codec.encode text.toList = .ok bytes) :
    textOf fs dir encoding p = .ok (String.ofList (joinLineEndings text.toList)) := by
  rw [textOf_of_read hread, hcodec]
  simp only [Except.mapError, bind, Except.bind, Codec.scheme, Codec.decode_of_encode hbytes]
  rfl

end Source

namespace Target

variable {c : Config} {dir target : Path} {source : Source} {text : String} {s t : Progress}

/-- A text that was written to a file lies there in the encoding asked for. -/
theorem file_of_write (h : (write c dir source text).Returns s (some target) t) :
    ∃ codec : Codec, ∃ bytes, lookUpText c.encoding = .ok codec.scheme ∧
      codec.encode text.toList = .ok bytes ∧ t.files.read dir target = .ok bytes := by
  unfold write at h
  cases htarget : of c source.path with
  | none =>
    rw [htarget] at h
    obtain ⟨i, u, -, h⟩ := Action.returns_bind.mp h
    exact absurd (Action.returns_pure.mp h).1 (by simp)
  | some p =>
    rw [htarget] at h
    obtain ⟨i, u, hstore, h⟩ := Action.returns_bind.mp h
    obtain ⟨i, v, htell, h⟩ := Action.returns_bind.mp h
    obtain ⟨hp, rfl⟩ := Action.returns_pure.mp h
    obtain rfl := Option.some.inj hp
    obtain ⟨-, scheme, bytes, hscheme, hbytes, hstores⟩ := Run.writeFile_returns hstore
    obtain ⟨codec, rfl⟩ := exists_codec_of_lookUpText hscheme
    obtain ⟨hquiet, -⟩ := Action.silent_tell.returns htell
    refine ⟨codec, bytes, hscheme, hbytes, ?_⟩
    rw [hquiet]
    exact hstores.read

/-- A module that is written is read back with newlines for its line ends. -/
theorem readsAs_of_write (h : (write c dir source text).Returns s (some target) t) :
    Source.ReadsAs t dir c.encoding target (String.ofList (joinLineEndings text.toList)) := by
  obtain ⟨codec, bytes, hcodec, hbytes, hread⟩ := file_of_write h
  exact Source.read_of_textOf (Source.textOf_of_encode hread hcodec hbytes)

/-- A module is read back as it was exactly if it holds no carriage return. -/
theorem readsAs_iff (h : (write c dir source text).Returns s (some target) t) :
    Source.ReadsAs t dir c.encoding target text ↔ HasNoReturn text := by
  have hread := readsAs_of_write h
  constructor
  · rintro ⟨u, hu⟩
    obtain ⟨u', hu'⟩ := hread
    obtain ⟨hsame, -⟩ := hu.unique hu'
    rw [Source.mk.injEq] at hsame
    have hchars := congrArg String.toList hsame.2
    rw [String.toList_ofList] at hchars
    exact joinLineEndings_eq_self.mp hchars.symm
  · intro hplain
    rwa [joinLineEndings_eq_self.mpr hplain, String.ofList_toList] at hread

/-- What was written to a file is read back unchanged if and only if it has no carriage return. A module
whose names and specifier have none is always read back. -/
theorem write_reads_back (h : (write c dir source text).Returns s (some target) t) :
    (Source.ReadsAs t dir c.encoding target text ↔ HasNoReturn text) ∧
    ∀ is specifier, guardModule is specifier = .ok text → (∀ i ∈ is, i.HasNoReturn) →
      HasNoReturn specifier → Source.ReadsAs t dir c.encoding target text := by
  refine ⟨readsAs_iff h, fun is specifier hmodule his hspecifier => (readsAs_iff h).mpr ?_⟩
  exact hasNoReturn_guardModule hmodule his hspecifier

/-- A name beyond the first plane, which takes two units in UTF-16. -/
def deseret : Interface := { name := "𐐀b", properties := [⟨"ключ", some .string, false⟩] }

def markedConfig : Config := { encoding := "utf-16", outputDir := some (.ofString "out/guards") }

/-- The guards are stored behind a mark, in directories that are made, and read without it. -/
theorem write_reads_back_marked : ∃ text t, guardModule [deseret] "../../a.ts" = .ok text ∧
    (write markedConfig .root ⟨.ofString "a.ts", ""⟩ text).Returns { files := {} }
      (some (.ofString "out/guards/a-guard.ts")) t ∧
    deseret.HasNoReturn ∧ HasNoReturn "../../a.ts" ∧
    Source.ReadsAs t .root "utf-16" (.ofString "out/guards/a-guard.ts") text := by
  have hguards : guards [deseret] = .ok [⟨"is𐐀b", "𐐀b", deseret.checks⟩] := by decide +kernel
  have hmodule : guardModule [deseret] "../../a.ts" = .ok _ :=
    guardModule_of_guards (checkGuardNames_eq_ok.mp (by decide +kernel)) hguards
  have hwrite : ((write markedConfig .root ⟨.ofString "a.ts", ""⟩
      (moduleText [deseret] "../../a.ts" [⟨"is𐐀b", "𐐀b", deseret.checks⟩])).ending
        { files := {} }).1 = .ok (some (.ofString "out/guards/a-guard.ts")) := by
    decide +kernel
  have hnames : deseret.HasNoReturn := by decide
  have hspecifier : HasNoReturn "../../a.ts" := by decide
  have hreturns : (write markedConfig .root ⟨.ofString "a.ts", ""⟩ _).Returns { files := {} }
      (some (.ofString "out/guards/a-guard.ts")) _ := Prod.ext hwrite rfl
  obtain ⟨-, hback⟩ := write_reads_back hreturns
  exact ⟨_, _, hmodule, hreturns, hnames, hspecifier,
    hback [deseret] _ hmodule (List.forall_mem_singleton.mpr hnames) hspecifier⟩

end Target

end TypeGuards
