import TypeGuards.Data.Printed
import TypeGuards.Text.Shortened
import TypeGuards.Validation.Finding
/-!
Findings as text: where they are, what is wrong and with which value, and where to read on.
-/
namespace TypeGuards

/-- A step; a name with a point in it is marked, since points stand between steps. -/
def Step.shown : Step → String
  | .field name => if name.toList.contains '.' then "\x60" ++ name ++ "\x60" else name
  | .index n => toString n

def explanations : String := "https://errors.pydantic.dev/2.14/v/"

/-- Where a defect is explained; a text that is no path needs no explanation. -/
def Defect.reference (d : Defect) : List String :=
  if d = .notPath then []
  else [s!"    For further information visit {explanations}{d.code}"]

namespace Finding

def lines (f : Finding) : List String :=
  let place := if f.place.isEmpty then [] else [String.intercalate "." (f.place.map Step.shown)]
  let value := String.ofList (Text.shortened f.value.printed.toList)
  let type := f.value.layer.typeName
  let details := s!"type={f.defect.code}, input_value={value}, input_type={type}"
  place ++ ["  " ++ f.defect.message ++ " [" ++ details ++ "]"] ++ f.defect.reference

end Finding

def report (shape : String) (findings : List Finding) : String :=
  let n := findings.length
  let errors := if n = 1 then "1 validation error" else s!"{n} validation errors"
  String.intercalate "\n" (s!"{errors} for {shape}" :: findings.flatMap Finding.lines)

end TypeGuards
