import TypeGuards.Declaration.Outline
import TypeGuards.Run.Target
/-!
Runs: from source files to files with guards. Sources are read first; then each is treated by
itself, and a source that cannot be treated has a failure for its outcome.
-/
namespace TypeGuards

structure Outcome where
  source : Path
  interfaces : List String := []
  output : Option Path := none
  error : Option Failure := none
deriving DecidableEq, Repr, Inhabited

namespace Outcome

def success (o : Outcome) : Bool := o.error.isNone

end Outcome

namespace Run

variable [Platform]

/-- The fault of a source as a failure of its own, if it is one. -/
def failureOf? : TypeScript.SourceError → Option Failure
  | .notTypeScript _ line => some (.notParsed "Source is not valid TypeScript" (some line))
  | .extraction (.unsupported u) => some (.unsupported u)
  | .extraction (.conflict c) => some (.conflict c)
  | .extraction (.emptyName _) => none
  | .extraction (.notPrimitive _) => none
  | .extraction (.other _ _) => none
  | .undecodable _ => none

/-- The declarations that are merged into earlier ones, each by its name and line. -/
def mergedFrom (resolvers : Resolvers) (found : List Interface) :
    List ModuleItem → List (String × Option Int)
  | [] => []
  | .other _ :: rest => mergedFrom resolvers found rest
  | .interface d :: rest =>
      match Extraction.interface resolvers d with
      | .error _ => []
      | .ok new =>
          let isLater := found.any (·.name = new.name)
          let later := if isLater then [(new.name, new.line)] else []
          match Extraction.add new found with
          | .error _ => later
          | .ok found => later ++ mergedFrom resolvers found rest

def tellParsed : Except TypeScript.SourceError Module → Action Unit
  | .ok module =>
      Action.tell .debug "tsguard.syntax.convert" "convert_module"
        s!"Converted {module.items.length} top-level items"
  | .error (.notTypeScript node line) =>
      Action.tell .debug "tsguard.parser" "parse" s!"Syntax error node '{node}' at line {line}"
  | .error _ => return ()

def tellMerged : List (String × Option Int) → Action Unit
  | [] => return ()
  | (name, line) :: rest => do
      let place := (line.map toString).getD "None"
      Action.tell .info "tsguard.extractor" "extract_all"
        s!"Merging declaration of interface '{name}' at line {place}"
      tellMerged rest

def dialectOf (c : Config) (p : Path) : TypeScript.Dialect :=
  c.dialect.getD (TypeScript.Dialect.ofPath p)

/-- The extractor of a dialect, which is made if there is none yet. -/
def extractorFor (d : TypeScript.Dialect) : Action Extractor := do
  match (← get).extractors.find? d with
  | some x => return x
  | none =>
      modify fun s => { s with extractors := s.extractors.make d }
      return { dialect := d }

def extract (c : Config) (source : Source) (parser : TypeScript.Parser) :
    Action (Except TypeScript.SourceError TypeScript.Extracted) := do
  let extractor ← extractorFor (dialectOf c source.path)
  let parsed := TypeScript.readModule extractor.dialect source.text parser
  tellParsed parsed
  match parsed with
  | .error e => return .error e
  | .ok module =>
      tellMerged (mergedFrom Resolvers.keywordsOnly [] module.items)
      match TypeScript.interfacesOf Resolvers.keywordsOnly module with
      | .error e => return .error e
      | .ok interfaces =>
          Action.tell .debug "tsguard.extractor" "extract_all"
            s!"Extracted {interfaces.length} interfaces"
          return .ok { module, interfaces }

def fail (source : Path) (task : String) (f : Failure) : Action Outcome := do
  Action.tell .info "tsguard.pipeline" "process" s!"Failed to {task} {source}: {f.message}"
  return { source, error := some f }

def tellGenerated (interfaces : List Interface) : Action Unit :=
  interfaces.forM fun i =>
    match guardName i.name with
    | .ok name =>
        Action.tell .debug "tsguard.generator" "generate"
          s!"Generated {name} with {i.properties.length} property checks"
    | .error _ => return ()

/-- The text by which guards at a target import their source. No file has a null in its name. -/
def specifierFor (dir source : Path) (target : Option Path) : Except AccessError String :=
  match target.filter fun t => t.toString.toList.contains (Char.ofNat 0) with
  | some t => .error ⟨.nullInPath, t⟩
  | none => .ok (specifier dir source target)

def generate (c : Config) (dir : Path) (source : Source) (interfaces : List Interface) :
    Action Outcome := do
  let target := Target.of c source.path
  let specifier ← Action.orAbort .access (specifierFor dir source.path target)
  match guardModule interfaces specifier with
  | .error e => fail source.path "generate guards for" e.failure
  | .ok text =>
      tellGenerated interfaces
      let output ← Target.write c dir source text
      return { source := source.path, interfaces := interfaces.map (·.name), output }

def process (c : Config) (dir : Path) (source : Source) (parser : TypeScript.Parser) :
    Action Outcome := do
  match ← extract c source parser with
  | .error e =>
      match failureOf? e with
      | some f => fail source.path "extract interfaces from" f
      | none => throw (.source e)
  | .ok { module, interfaces } =>
      if c.showsOutline then
        Action.print s!"{source.path}\n"
        Action.print (module.outline.render ++ "\n")
      generate c dir source interfaces

end Run

def run [Platform] (c : Config) (dir : Path) (paths : List Path)
    (parser : TypeScript.Parser := TypeScript.Dialect.parse) : Action (List Outcome) := do
  Action.orAbort id (Source.require (← get).files dir paths)
  let sources ← paths.mapM (Source.read dir c.encoding)
  let outcomes ← sources.mapM fun source => Run.process c dir source parser
  let failed := (outcomes.filter (!·.success)).length
  let n := outcomes.length
  Action.tell .info "tsguard.pipeline" "run"
    s!"Processed {n} files: {n - failed} succeeded, {failed} failed"
  return outcomes

end TypeGuards
