/-!
Arguments of a command line. An option has a long name after two dashes or a letter after one;
letters of options without values may stand together. The value of an option is what follows it in
the same argument, or the next argument, whatever that looks like.
-/
namespace TypeGuards.Command

inductive Opt where
  | file
  | output
  | outputDir
  | debug
  | encoding
  | dialect
  | config
  | verbose
  | logLevel
  | help
deriving DecidableEq, Repr, Inhabited

namespace Opt

def takesValue : Opt → Bool
  | verbose | help => false
  | _ => true

def longNames : List (String × Opt) :=
  [("file", .file), ("output", .output), ("output-dir", .outputDir), ("debug", .debug),
   ("encoding", .encoding), ("dialect", .dialect), ("config", .config), ("verbose", .verbose),
   ("log-level", .logLevel), ("help", .help)]

def letters : List (Char × Opt) :=
  [('f', .file), ('o', .output), ('d', .debug), ('v', .verbose), ('h', .help)]

end Opt

inductive Misuse where
  | noSuchOption (name : String)
  | noValue (name : String)
  | unexpectedValue (name : String)
  | unexpectedArgument (text : String)
  | noSuchChoice (name text : String)
  | notFound (name : String) (path : String)
  | isDirectory (name : String) (path : String)
  | isFile (name : String) (path : String)
deriving DecidableEq, Repr, Inhabited

def Misuse.message : Misuse → String
  | noSuchOption name => s!"No such option: {name}"
  | noValue name => s!"Option '{name}' requires an argument."
  | unexpectedValue name => s!"Option '{name}' does not take a value."
  | unexpectedArgument text => s!"Got unexpected extra argument ({text})"
  | noSuchChoice name text => s!"Invalid value for '{name}': '{text}' is not one of the choices."
  | notFound name path => s!"Invalid value for '{name}': File '{path}' does not exist."
  | isDirectory name path => s!"Invalid value for '{name}': File '{path}' is a directory."
  | isFile name path => s!"Invalid value for '{name}': Directory '{path}' is a file."

structure Arguments where
  options : List (Opt × String) := []
  others : List String := []
deriving DecidableEq, Repr, Inhabited

namespace Arguments

/-- What an argument says: options with their values, and perhaps one whose value comes next. -/
structure Reading where
  options : List (Opt × String) := []
  /-- The option without its value, and its name as it was written. -/
  pending : Option (Opt × String) := none
deriving DecidableEq, Repr, Inhabited

/-- Reads what stands after two dashes. -/
def readLong (body : List Char) : Except Misuse Reading :=
  let (name, rest) := body.span (· ≠ '=')
  let written := String.ofList (['-', '-'] ++ name)
  match Opt.longNames.lookup (String.ofList name), rest with
  | none, _ => .error (.noSuchOption written)
  | some o, [] =>
      if o.takesValue then .ok { pending := some (o, written) } else .ok { options := [(o, "")] }
  | some o, _ :: value =>
      if o.takesValue then .ok { options := [(o, String.ofList value)] }
      else .error (.unexpectedValue written)

/-- Reads the letters after one dash. -/
def readLetters : List Char → Except Misuse Reading
  | [] => .ok {}
  | c :: rest =>
      let written := String.ofList ['-', c]
      match Opt.letters.lookup c with
      | none => .error (.noSuchOption written)
      | some o =>
          if o.takesValue then
            if rest = [] then .ok { pending := some (o, written) }
            else .ok { options := [(o, String.ofList rest)] }
          else do
            let others ← readLetters rest
            return { others with options := (o, "") :: others.options }

/-- Reads an argument, if it is one of options. A dash alone is not. -/
def readOptions (argument : List Char) : Option (Except Misuse Reading) :=
  match argument with
  | '-' :: '-' :: body => some (readLong body)
  | '-' :: c :: rest => some (readLetters (c :: rest))
  | _ => none

def prepend (options : List (Opt × String)) (a : Arguments) : Arguments :=
  { a with options := options ++ a.options }

/-- Reads a command line. After two dashes alone no options follow. -/
def read : List String → Except Misuse Arguments
  | [] => .ok {}
  | argument :: rest =>
      if argument = "--" then .ok { others := rest }
      else
        match readOptions argument.toList with
        | none => do
            let a ← read rest
            return { a with others := argument :: a.others }
        | some (.error e) => .error e
        | some (.ok reading) =>
            match reading.pending, rest with
            | none, rest => do return (← read rest).prepend reading.options
            | some (_, written), [] => .error (.noValue written)
            | some (o, _), value :: rest => do
                return (← read rest).prepend (reading.options ++ [(o, value)])

def values (a : Arguments) (o : Opt) : List String :=
  a.options.filterMap fun (p, value) => if p = o then some value else none

/-- The value of an option that counts once: the last one. -/
def value? (a : Arguments) (o : Opt) : Option String := (a.values o).getLast?

def has (a : Arguments) (o : Opt) : Bool := a.options.any (·.1 = o)

def present (a : Arguments) : List Opt :=
  a.options.foldl (fun os (o, _) => if os.contains o then os else os ++ [o]) []

end Arguments

end TypeGuards.Command
