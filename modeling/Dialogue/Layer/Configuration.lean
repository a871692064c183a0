import Dialogue.Layer.Value
import Dialogue.Number.Reader
import Dialogue.Number.Shortest
import Dialogue.Settings
import Dialogue.Toml.Reader
/-!
# Configurations

A configuration is put together from the defaults, a TOML file and the environment, each laid over
the ones before. Its values are read leniently: numbers, truth values and their texts stand for one
another where that makes sense.

## Main definitions

- `Configuration`, `ConfigurationFault`
- `Configuration.ofLayers` — from sources that have been read
- `Configuration.load` — from a place for files and an environment
-/

namespace Dialogue

namespace LayerValue

/-- Whether a text stands for true or false, besides the digits. -/
def switchWord? (s : String) : Option Bool :=
  match lowercase s with
  | "true" | "on" | "yes" => some true
  | "false" | "off" | "no" => some false
  | _ => none

/-- The truth value that a value stands for. -/
def flag? : LayerValue → Option Bool
  | .flag b => some b
  | .whole n => some (n != 0)
  | .real x => some (!x.same (.zero false))
  | .text "1" => some true
  | .text "0" => some false
  | .text s => switchWord? s
  | _ => none

/-- The natural of 64 bits nearest to a number, a half going up; zero for a negative one. -/
def nearestNatural : Binary64 → Nat
  | .finite false mantissa exponent =>
    let (num, den) := Binary64.fraction mantissa exponent
    min ((2 * num + den) / (2 * den)) (indexBound - 1)
  | .infinite false => indexBound - 1
  | _ => 0

/-- The natural of 64 bits that a value stands for. -/
def natural? : LayerValue → Option Nat
  | .whole n => if 0 ≤ n then some n.toNat else none
  | .flag b => some (if b then 1 else 0)
  | .real x => some (nearestNatural x)
  | .text s =>
    match switchWord? s with
    | some b => some (if b then 1 else 0)
    | none => readIndex? s.toList
  | _ => none

/-- The binary64 number that a value stands for. -/
def real? : LayerValue → Option Binary64
  | .real x => some x
  | .whole n => some (.ofInt n)
  | .flag b => some (.ofNat (if b then 1 else 0))
  | .text s =>
    match switchWord? s with
    | some b => some (.ofNat (if b then 1 else 0))
    | none => readReal? s.toList
  | _ => none

/-- The text that a value stands for. -/
def text? : LayerValue → Option String
  | .text s => some s
  | .flag b => some (if b then "true" else "false")
  | .whole n => some (toString n)
  | .real x => some x.plainText
  | _ => none

/-- Read a value that may be missing or nothing. -/
def optional {α : Type} (read : LayerValue → Option α) : Option LayerValue → Option (Option α)
  | none => some none
  | some .nothing => some none
  | some value => (read value).map some

/-- Read a value that may be missing. -/
def defaulted {α : Type} (default : α) (read : LayerValue → Option α) :
    Option LayerValue → Option α
  | none => some default
  | some value => read value

/-- What a value gives for each field of a record: a table by name, a list by position. -/
def slots? (fields : List String) : LayerValue → Option (List (Option LayerValue))
  | .table members => some (fields.map (Keyed.get? · members))
  | .list items => some ((List.range fields.length).map (items[·]?))
  | _ => none

end LayerValue

section

open LayerValue

/-- The settings that a value of a source denotes; whatever it leaves out keeps its default. -/
def Settings.ofLayer? (value : LayerValue) : Option Settings := do
  let d : Settings := {}
  match ← value.slots? (Settings.fields.flatMap id) with
  | [freefallLimit, entryPage, idlePage, idleAfter, caseSensitive, inputs, outputs, patches,
      capacity] =>
    return {
      freefallLimit := ← defaulted d.freefallLimit natural? freefallLimit
      entryPage := ← defaulted d.entryPage text? entryPage
      idlePage := ← defaulted d.idlePage text? idlePage
      idleAfterSeconds := ← optional real? idleAfter
      caseSensitiveTriggers := ← defaulted d.caseSensitiveTriggers flag? caseSensitive
      recordInputs := ← defaulted d.recordInputs flag? inputs
      recordOutputs := ← defaulted d.recordOutputs flag? outputs
      recordPatches := ← defaulted d.recordPatches flag? patches
      eventCapacity := ← defaulted d.eventCapacity natural? capacity }
  | _ => none

end

/-- The settings of conversations and the level of the log. -/
structure Configuration where
  engine : Settings := {}
  level : String := "info"
  deriving DecidableEq, Repr, Inhabited

/-- Why there is no configuration: a source cannot be read, or a value is malformed. -/
inductive ConfigurationFault where
  | unreadable
  | invalid
  deriving DecidableEq, Repr, Inhabited

/-- The wording of a fault. -/
def ConfigurationFault.message : ConfigurationFault → String
  | .unreadable => "Failed to load configuration"
  | .invalid => "Invalid configuration"

namespace Configuration

/-- A source of settings: places with their values. -/
abbrev Source := List (String × LayerValue)

/-- The defaults as a source. -/
def defaults : Source :=
  let d : Configuration := {}
  [("engine", .table [
      ("case_sensitive_triggers", .flag d.engine.caseSensitiveTriggers),
      ("entry_page", .text d.engine.entryPage),
      ("event_capacity", .whole d.engine.eventCapacity),
      ("freefall_limit", .whole d.engine.freefallLimit),
      ("idle_after_secs", .nothing),
      ("idle_page", .text d.engine.idlePage),
      ("record_inputs", .flag d.engine.recordInputs),
      ("record_outputs", .flag d.engine.recordOutputs),
      ("record_patches", .flag d.engine.recordPatches)]),
    ("logging", .table [("level", .text d.level)])]

/-- Lay sources over one another. -/
def layered (sources : List Source) : LayerValue :=
  sources.flatten.foldl (fun root (place, value) => root.put place value) (.table [])

/-- The level of the log that a value of a source denotes. -/
def levelOfLayer? (value : LayerValue) : Option String := do
  match ← value.slots? ["level"] with
  | [level] => LayerValue.defaulted ({} : Configuration).level LayerValue.text? level
  | _ => none

/-- The configuration that a value of a source denotes. -/
def ofLayer? (value : LayerValue) : Option Configuration := do
  match ← value.slots? ["engine", "logging"] with
  | [engine, logging] =>
    return {
      engine := ← LayerValue.defaulted {} Settings.ofLayer? engine
      level := ← LayerValue.defaulted ({} : Configuration).level levelOfLayer? logging }
  | _ => none

/-- The configuration of some sources over the defaults. -/
def ofLayers (sources : List Source) : Except ConfigurationFault Configuration :=
  match ofLayer? (layered (defaults :: sources)) with
  | some configuration => .ok configuration
  | none => .error .invalid

/-- The value that the text of a variable stands for. -/
def variableValue (s : String) : LayerValue :=
  if lowercase s = "true" then .flag true
  else if lowercase s = "false" then .flag false
  else
    match readInteger? s.toList with
    | some n => .whole n
    | none =>
      match readReal? s.toList with
      | some x => .real x
      | none => .text s

/-- Replace two underscores by a point, from the left. -/
def pointed : List Char → List Char
  | '_' :: '_' :: rest => '.' :: pointed rest
  | c :: rest => c :: pointed rest
  | [] => []

/-- The start of the variables that hold settings, in lower case. -/
def variableStart : List Char := "chatflow__".toList

/-- The variables that hold settings as a source. -/
def ofEnvironment (environment : Keyed String) : Source :=
  environment.filterMap fun (name, value) =>
    let name := (lowercase name).toList
    if name.take variableStart.length = variableStart then
      some (String.ofList (pointed (name.drop variableStart.length)), variableValue value)
    else none

/-- The variable that names the file of settings. -/
def fileVariable : String := "CHATFLOW_CONFIG_PATH"

/-- The file of settings when none is named. -/
def plainFile : String := "chatflow.toml"

section

variable {m : Type → Type} [Monad m]

/-- The text of the file of settings, if there is one. A file that is named has to be there, perhaps
with an ending that its name leaves out. -/
def readFile (read : String → m (Option String)) (environment : Keyed String)
    (path : Option String) : m (Except ConfigurationFault (Option String)) := do
  match path.or (Keyed.get? fileVariable environment) with
  | none => return .ok (← read plainFile)
  | some path =>
    match ← read path with
    | some text => return .ok (some text)
    | none =>
      match ← read (path ++ ".toml") with
      | some text => return .ok (some text)
      | none => return .error .unreadable

/-- Put a configuration together from the file of settings and, if wanted, the environment. -/
def load (read : String → m (Option String)) (environment : Keyed String)
    (path : Option String) (useEnvironment : Bool) :
    m (Except ConfigurationFault Configuration) := do
  let fromEnvironment := if useEnvironment then ofEnvironment environment else []
  match ← readFile read environment path with
  | .error fault => return .error fault
  | .ok none => return ofLayers [fromEnvironment]
  | .ok (some text) =>
    match Toml.parse? text with
    | none => return .error .unreadable
    | some source => return ofLayers [source, fromEnvironment]

end

end Configuration

end Dialogue
