import TypeGuards.Encoding.Codec
import TypeGuards.Failure
import TypeGuards.Yaml.Value
/-!
What ends a run before it has an outcome for every file.
-/
namespace TypeGuards

inductive Abort where
  | failure (f : Failure)
  | access (e : AccessError)
  | codec (e : Encoding.CodecError)
  | scalar (e : Yaml.ScalarError)
  | tooDeep
  | source (e : TypeScript.SourceError)
deriving DecidableEq, Repr, Inhabited

end TypeGuards
