import TypeGuards.Encoding.Codec
/-!
What the program relies on where it runs: the encodings that have names there, and how deep readers can
go into nested documents.
-/
namespace TypeGuards

class Platform where
  scheme? : String → Option Encoding.Scheme
  /-- The seven codecs are known, by all their names. -/
  scheme?_of_codec : ∀ name codec, Encoding.Codec.ofName? name = some codec →
    scheme? name = some codec.scheme
  /-- How many calls of readers can lie in one another. Each level of a document takes two. -/
  depth : Nat
  le_depth : 64 ≤ depth

/-- The seven codecs and no others, and room for a few hundred levels. -/
instance Platform.standard : Platform where
  scheme? name := (Encoding.Codec.ofName? name).map Encoding.Codec.scheme
  scheme?_of_codec _ _ h := by rw [h, Option.map_some]
  depth := 960
  le_depth := by decide

namespace Encoding

variable [Platform]

def lookUp (name : String) : Except CodecError Scheme :=
  if name.toList.contains (Char.ofNat 0) then .error .nullInName
  else
    match Platform.scheme? name with
    | some scheme => .ok scheme
    | none => .error (.unknown name)

def lookUpText (name : String) : Except CodecError Scheme := do
  let scheme ← lookUp name
  if scheme.isForText then .ok scheme else .error (.notForText name)

end Encoding

end TypeGuards
