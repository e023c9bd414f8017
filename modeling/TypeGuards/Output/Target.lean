import TypeGuards.Path
/-!
Where guards are written, and how the module they are in names the module they are for.
-/
namespace TypeGuards

/-- What stands for the name of a source file in a pattern. -/
def fileToken : String := "<FILE>"

def streamPattern : String := "-"

/-- The path that a pattern stands for, given a source file and the directory it is seen from. -/
def targetPath (pattern : String) (source : Path) (dir : Option Path) : Path :=
  let filled := Text.replaceAll fileToken.toList source.stem.toList pattern.toList
  let path := Path.ofString (String.ofList filled)
  match dir with
  | some d => d.join path
  | none => path

/-- The text by which a module at a target imports a source; without a target it lies beside it. -/
def specifier (workDir source : Path) (target : Option Path) : String :=
  match target with
  | none => "./" ++ source.name
  | some t =>
      let way := toString (Path.way (Path.resolve workDir t).parent (Path.resolve workDir source))
      if "../".isPrefixOf way then way else "./" ++ way

end TypeGuards
