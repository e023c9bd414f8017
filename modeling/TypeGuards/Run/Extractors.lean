import TypeGuards.TypeScript.Modules
/-!
Extractors. A run makes one for each dialect it meets and uses it again for later files.
-/
namespace TypeGuards

open TypeScript

structure Extractor where
  dialect : Dialect
deriving DecidableEq, Repr, Inhabited

structure Extractors where
  entries : List (Dialect × Extractor)
  keyed : ∀ e ∈ entries, e.2.dialect = e.1
deriving DecidableEq, Repr

namespace Extractors

def empty : Extractors where
  entries := []
  keyed := nofun

instance : Inhabited Extractors := ⟨empty⟩

def find? (known : Extractors) (d : Dialect) : Option Extractor := known.entries.lookup d

def make (known : Extractors) (d : Dialect) : Extractors where
  entries := (d, { dialect := d }) :: known.entries
  keyed := by simpa using known.keyed

end Extractors

end TypeGuards
