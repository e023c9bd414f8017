import TypeGuards.Encoding.Blocks
import TypeGuards.Encoding.Codec
import TypeGuards.Files
import TypeGuards.Yaml.Value
/-!
YAML files. They are in UTF-8, with line endings of any kind.
-/
namespace TypeGuards.Yaml

inductive FileError where
  | access (e : AccessError)
  | undecodable (e : Encoding.DecodeError)
  | content (e : Error)
deriving DecidableEq, Repr, Inhabited

def loadFile [Platform] (fs : Files) (dir p : Path) : Except FileError Stored := do
  let bytes ← (fs.read dir p).mapError .access
  let chars ← (Encoding.Blocks.decode bytes).mapError .undecodable
  (load (Encoding.joinLineEndings chars)).mapError .content

end TypeGuards.Yaml
