import TypeGuards.Run.Source
/-!
Writing guards. A file is emptied before its new text is encoded.
-/
namespace TypeGuards.Target

variable [Platform]

/-- Where the guards of a source are written; without a target, to standard output. -/
def of (c : Config) (source : Path) : Option Path :=
  if c.writesToStream then none else some (targetPath c.pattern source c.outputDir)

def writeFile (dir : Path) (encoding : String) (target : Path) (text : String) : Action Unit := do
  let (made, files) := (← get).files.makeDirectories dir target.parent
  modify fun s => { s with files }
  Action.orAbort .access made
  let write (bytes : List UInt8) : Action Unit := do
    let files ← Action.orAbort .access ((← get).files.write dir target bytes)
    modify fun s => { s with files }
  write []
  let scheme ← Action.orAbort .codec (Encoding.lookUpText encoding)
  write (← Action.orAbort .codec (scheme.encode text.toList))

def write (c : Config) (dir : Path) (source : Source) (text : String) : Action (Option Path) := do
  match of c source.path with
  | none =>
      Action.print text
      return none
  | some target =>
      writeFile dir c.encoding target text
      Action.tell .info Source.partName "write" s!"Wrote guards for {source.path} to {target}"
      return some target

end TypeGuards.Target
