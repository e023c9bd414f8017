import TypeGuards.Text.CaseTable
/-!
Upper, lower and title case by the full mappings of Unicode: a character may become several, and a
capital sigma at the end of a word becomes a final one.
-/
namespace TypeGuards.Text

open CaseTable

def Run.holds (r : Run) (n : Nat) : Bool := r.first ≤ n && n ≤ r.last && (n - r.first) % r.step = 0

/-- Maps a character by its expansion, else by its run, else to itself. -/
def mapCase (runs : List Run) (expansions : List (Nat × List Nat)) (c : Char) : List Char :=
  match expansions.lookup c.toNat with
  | some ns => ns.map Char.ofNat
  | none =>
      match runs.find? (Run.holds · c.toNat) with
      | some r => [Char.ofNat (Int.toNat (c.toNat + r.offset))]
      | none => [c]

def upperChar (c : Char) : List Char := mapCase upperRuns upperExpansions c

def titleChar (c : Char) : List Char := mapCase titleRuns titleExpansions c

def lowerChar (c : Char) : List Char := mapCase lowerRuns lowerExpansions c

def upper (text : List Char) : List Char := text.flatMap upperChar

def isIn (ranges : List (Nat × Nat)) (c : Char) : Bool :=
  ranges.any fun (first, last) => first ≤ c.toNat && c.toNat ≤ last

/-- Whether the nearest character that is not passed over is a letter with case. -/
def meetsCased (text : List Char) : Bool :=
  match text.dropWhile (isIn passedOver) with
  | c :: _ => isIn cased c
  | [] => false

/-- Lower case of what follows some characters, which come nearest first. -/
def lowerAfter (before : List Char) : List Char → List Char
  | [] => []
  | c :: rest =>
      let mapped :=
        if c = 'Σ' then
          if meetsCased before && !meetsCased rest then ['ς'] else ['σ']
        else lowerChar c
      mapped ++ lowerAfter (c :: before) rest

def lower (text : List Char) : List Char := lowerAfter [] text

def capitalize : List Char → List Char
  | [] => []
  | c :: rest => titleChar c ++ lowerAfter [c] rest

end TypeGuards.Text
