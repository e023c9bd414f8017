import TypeGuards.Logging.Loggers
import TypeGuards.Logging.Override
/-!
Settings of logging. A setting names formatters, filters and handlers, and says which handlers the
loggers have. It replaces what was set before, unless it says that it only changes levels.
-/
namespace TypeGuards.Logging

/-- A part of a setup. What was set before it failed stays set. -/
abbrev Setup := ExceptT Fault (StateM Loggers)

namespace Setting

abbrev Entries := List (Scalar × Data)

def isTruthy : Data → Bool
  | .scalar .null => false
  | .scalar (.bool b) => b
  | .scalar (.int n) => n ≠ 0
  | .scalar (.float x) => !(x.toFloat == 0)
  | .scalar (.text s) => s ≠ ""
  | .scalar (.bytes bs) => bs ≠ []
  | .scalar (.date _) | .scalar (.moment _) => true
  | .list items => !items.isEmpty
  | .pair _ _ => true
  | .set items => items ≠ []
  | .map entries => !entries.isEmpty

def isNull : Data → Bool
  | .scalar .null => true
  | _ => false

/-- The value of a key, unless it is null. -/
def stated? (entries : Entries) (key : String) : Option Data :=
  (Data.find? entries key).filter (!isNull ·)

def truthy? (entries : Entries) (key : String) : Option Data :=
  (Data.find? entries key).filter isTruthy

def made? (made : List (Scalar × α)) : Data → Option α
  | .scalar name => (made.find? fun e => e.1.isSameKey name).map (·.2)
  | _ => none

/-- The members of a section. One that is no record has none that can be made. -/
def membersOf (part : Part) (config : Entries) (key : String) : Except Fault Entries :=
  match Data.find? config key with
  | none => .ok []
  | some (.map entries) => .ok entries
  | some d =>
      match members .scalar d.layer with
      | .ok [] => .ok []
      | .ok (name :: _) => .error (.unable part name)
      | .error e => .error (.misshape e)

def makeAll (part : Part) (make : Entries → Option α) (entries : Entries) :
    Except Fault (List (Scalar × α)) :=
  entries.mapM fun (name, d) =>
    match d with
    | .map es =>
        match make es with
        | some a => .ok (name, a)
        | none => .error (.unable part (.scalar name))
    | _ => .error (.unable part (.scalar name))

/-- The key under which a maker of one's own would be named; there are none. -/
def makerKey : String := "()"

def isCustom (es : Entries) : Bool := (Data.find? es makerKey).isSome

def textOr (default : String) : Option Data → Option String
  | none => some default
  | some (.scalar (.text s)) => some s
  | some _ => none

def format? (es : Entries) : Option Format := do
  if isCustom es then failure
  let style ← (← textOr "%" (Data.find? es "style")) |> Style.ofName?
  let kind ← textOr "logging.Formatter" (truthy? es "class")
  if kind ≠ "logging.Formatter" then failure
  let text ← textOr style.messageOnly (truthy? es "format")
  Format.ofText? style (((Data.find? es "validate").map isTruthy).getD true) text

def part? (es : Entries) : Option String :=
  if isCustom es then none else textOr "" (Data.find? es "name")

def level? : Data → Option Int
  | .scalar (.text name) => Level.number? name
  | .scalar s => s.integer?
  | _ => none

def stream? : Option Data → Option Stream
  | none => some .standardError
  | some (.scalar (.text "ext://sys.stderr")) => some .standardError
  | some (.scalar (.text "ext://sys.stdout")) => some .standardOutput
  | some (.scalar (.text s)) =>
      if "ext://".isPrefixOf s || "cfg://".isPrefixOf s then none else some .nowhere
  | some _ => some .nowhere

def hasOnly (keys : List String) (es : Entries) : Bool :=
  es.all fun (k, _) => keys.any fun name => k = .text name

def handlerKeys : List String := ["class", "formatter", "level", "filters", "."]

def target? (es : Entries) : Option Stream :=
  match Data.find? es "class" with
  | some (.scalar (.text "logging.StreamHandler")) =>
      if hasOnly ("stream" :: handlerKeys) es then stream? (stated? es "stream") else none
  | some (.scalar (.text "logging.NullHandler")) => if hasOnly handlerKeys es then some .nowhere else none
  | _ => none

/-- What was made under some names, up to the first that names nothing, and whether there is none
such. -/
def madeUnder (made : List (Scalar × α)) : List Data → List α × Bool
  | [] => ([], true)
  | name :: rest =>
      match made? made name with
      | some a => ((madeUnder made rest).map (a :: ·) id)
      | none => ([], false)

def allMade (made : List (Scalar × α)) : Option Data → List α × Bool
  | none => ([], true)
  | some d =>
      match members .scalar d.layer with
      | .ok names => madeUnder made names
      | .error _ => ([], false)

def handler? (formats : List (Scalar × Format)) (parts : List (Scalar × String)) (es : Entries) :
    Option Handler := do
  let format ← match truthy? es "formatter" with
    | none => some none
    | some name => (made? formats name).map some
  let stream ← target? es
  let level ← match stated? es "level" with
    | none => some 0
    | some d => level? d
  let (parts, isWhole) := allMade parts (truthy? es "filters")
  if isWhole then return { level, format, stream, parts } else none

/-- Orders names as they are gone through; texts and numbers have no common order. -/
def nameLe (a b : Scalar × α) : Bool :=
  match a.1, b.1 with
  | .text s, .text t => s ≤ t
  | s, t =>
      match s.integer?, t.integer? with
      | some m, some n => m ≤ n
      | _, _ => true

/-- Neighbours that have no common order. -/
def unordered? : Entries → Option Misshape
  | (a, _) :: (b, d) :: rest =>
      let same := match a, b with
        | .text _, .text _ => true
        | a, b => a.number?.isSome && b.number?.isSome
      if same then unordered? ((b, d) :: rest)
      else some (.notComparable (fullTypeName (.scalar b : Layer Data)) (fullTypeName (.scalar a : Layer Data)))
  | _ => none

structure Made where
  handlers : List (Scalar × Handler)
  parts : List (Scalar × String)

def make (config : Entries) : Except Fault Made := do
  let formats ← makeAll .formatter format? (← membersOf .formatter config "formatters")
  let parts ← makeAll .filter part? (← membersOf .filter config "filters")
  let entries ← membersOf .handler config "handlers"
  match unordered? entries with
  | some e => .error (.misshape e)
  | none =>
      let handlers ← makeAll .handler (handler? formats parts) (entries.mergeSort nameLe)
      return { handlers := handlers.map fun (name, h) => (name, { h with name := some name }), parts }

/-- Sets a logger step by step; false if a step fails. -/
def configure (made : Option Made) (name : String) (d : Data) : StateM Loggers Bool := do
  let change (f : Logger → Logger) : StateM Loggers Unit :=
    modify fun ls => ls.set name (f (if name = "" then ls.root else ls.get name))
  change id
  match d with
  | .map es =>
      match (stated? es "level").map level? with
      | some none => return false
      | some (some level) => change fun l => { l with level }
      | none => pure ()
      match made with
      | none => return true
      | some made =>
          let (handlers, isWhole) := allMade made.handlers (truthy? es "handlers")
          change fun l => { l with handlers }
          if !isWhole then return false
          let (parts, isWhole) := allMade made.parts (truthy? es "filters")
          change fun l => { l with parts := l.parts ++ parts }
          return isWhole
  | _ => return false

def configureNamed (made : Option Made) (name : Scalar) (d : Data) : Setup Unit := do
  let fail : Setup Unit := throw (.unable .logger (.scalar name))
  match name, d with
  | .text key, .map es =>
      if ← configure made key d then
        modify fun ls =>
          let l := if key = "" then ls.root else ls.get key
          let propagates := ((stated? es "propagate").map isTruthy).getD l.propagates
          ls.set key { l with isDisabled := false, propagates }
      else fail
  | _, _ => fail

def configureRoot (made : Option Made) (config : Entries) : Setup Unit := do
  match truthy? config "root" with
  | none => return ()
  | some d => if ← configure made "" d then return () else throw .unableRoot

/-- Loggers below one that was set start anew; all others are disabled or not. -/
def settleOthers (mentioned : List String) (disables : Bool) (ls : Loggers) : Loggers :=
  { ls with named := ls.named.map fun (name, l) =>
      if mentioned.contains name then (name, l)
      else if mentioned.any fun m => m ≠ "" && isWithin m name then
        (name, { l with level := 0, handlers := [], propagates := true })
      else (name, { l with isDisabled := disables }) }

def texts (entries : Entries) : List String :=
  entries.filterMap fun
    | (.text s, _) => some s
    | _ => none

def mapHandlers (f : Handler → Handler) (ls : Loggers) : Loggers :=
  let change (l : Logger) : Logger := { l with handlers := l.handlers.map f }
  { root := change ls.root, named := ls.named.map fun (name, l) => (name, change l) }

def replace (config : Entries) : Setup Unit := do
  let disables := ((Data.find? config "disable_existing_loggers").map isTruthy).getD true
  modify (mapHandlers fun h => { h with name := none })
  let made ← make config
  let entries ← membersOf .logger config "loggers"
  for (name, d) in entries do
    configureNamed (some made) name d
  modify (settleOthers (texts entries) disables)
  configureRoot (some made) config

def handlerNames (ls : Loggers) : List Scalar :=
  (ls.root :: ls.named.map (·.2)).flatMap fun l => l.handlers.filterMap (·.name)

def changeHandler (name : Scalar) (d : Data) : Setup Unit := do
  let isMeant (h : Handler) : Bool := (h.name.map (·.isSameKey name)).getD false
  if !(handlerNames (← get)).any (·.isSameKey name) then throw (.noHandler (.scalar name))
  match d with
  | .map es =>
      match (truthy? es "level").map level? with
      | none => return ()
      | some none => throw (.unable .handler (.scalar name))
      | some (some level) =>
          modify (mapHandlers fun h => if isMeant h then { h with level } else h)
  | _ => throw (.unable .handler (.scalar name))

def adjust (config : Entries) : Setup Unit := do
  let entries ← match Data.find? config "handlers" with
    | none => pure []
    | some (.map entries) => pure entries
    | some d =>
        match members .scalar d.layer with
        | .ok [] => pure []
        | .ok (name :: _) => throw (.noHandler name)
        | .error e => throw (.misshape e)
  for (name, d) in entries do
    changeHandler name d
  for (name, d) in ← membersOf .logger config "loggers" do
    configureNamed none name d
  configureRoot none config

def apply (config : Entries) : Setup Unit := do
  match Data.find? config "version" with
  | none => throw .noVersion
  | some version =>
      let isKnown := match version with
        | .scalar s => s.isSameKey (.int 1)
        | _ => false
      if !isKnown then throw (.version version)
      if (truthy? config "incremental").isSome then adjust config else replace config

end Setting

end TypeGuards.Logging
