import Dialogue.Keyed
/-!
# Arguments of the command line

A command is `run`, `check` or `rules`. The option that names a file of settings may stand before or
after the command, and after it wins. An option takes its value after an equals sign or as the next
argument, which then may not look like an option. After two dashes alone, nothing is an option.

## Main definitions

- `Console.Command`, `Console.Invocation`
- `Console.Invocation.parse?` — the invocation that arguments denote
-/

namespace Dialogue.Console

/-- What the command line can be asked for. -/
inductive Command where
  /-- Talk to a document, with variables and shared variables to begin with. -/
  | run (flow : String) (own shared : Option String) (timestamps : Bool)
  /-- Check a document; with `strict`, warnings count as errors. -/
  | check (flow : String) (strict : Bool)
  /-- List the rules that documents are checked by. -/
  | rules
  deriving DecidableEq, Repr, Inhabited

/-- A command with the file of settings it names. -/
structure Invocation where
  settings : Option String
  command : Command
  deriving DecidableEq, Repr, Inhabited

/-- The options of a command: those with a value, and those without one. -/
structure Options where
  valued : List String
  plain : List String
  deriving DecidableEq, Repr, Inhabited

/-- Arguments taken apart: options with their values, options without one, and the others. -/
structure Parts where
  valued : Keyed String := []
  plain : List String := []
  others : List String := []
  deriving DecidableEq, Repr, Inhabited

/-- Whether an argument looks like an option. -/
def looksLikeOption (s : String) : Bool :=
  match s.toList with
  | '-' :: _ :: _ => true
  | _ => false

/-- The name and the value, if it has one after an equals sign, of an argument that starts with two
dashes. -/
def optionOf? (s : String) : Option (String × Option String) :=
  match s.toList with
  | '-' :: '-' :: rest =>
    let name := String.ofList (rest.takeWhile (· != '='))
    match rest.dropWhile (· != '=') with
    | _ :: value => some (name, some (String.ofList value))
    | [] => some (name, none)
  | _ => none

/-- Note the value of an option, which may have one only once. -/
def Parts.setValue? (parts : Parts) (name value : String) : Option Parts :=
  if Keyed.contains name parts.valued then none
  else some { parts with valued := Keyed.insert name value parts.valued }

/-- Note an option without a value, which may be there only once. -/
def Parts.setPlain? (parts : Parts) (name : String) : Option Parts :=
  if parts.plain.contains name then none else some { parts with plain := name :: parts.plain }

/-- Take arguments apart. With `single`, the first argument that is no option ends the options, and
it and all after it come back untouched. -/
def takeApart? (options : Options) (single : Bool) (parts : Parts) :
    List String → Option (Parts × List String)
  | [] => some (parts, [])
  | "--" :: rest =>
    if single then none else some ({ parts with others := parts.others ++ rest }, [])
  | arg :: rest =>
    match optionOf? arg with
    | some (name, given) =>
      if options.valued.contains name then
        match given, rest with
        | some value, rest => do takeApart? options single (← parts.setValue? name value) rest
        | none, value :: rest =>
          if looksLikeOption value then none
          else do takeApart? options single (← parts.setValue? name value) rest
        | none, [] => none
      else if options.plain.contains name && given.isNone then do
        takeApart? options single (← parts.setPlain? name) rest
      else none
    | none =>
      if looksLikeOption arg then none
      else if single then some (parts, arg :: rest)
      else takeApart? options single { parts with others := parts.others ++ [arg] } rest

/-- The name of the option that names a file of settings. -/
def settingsOption : String := "config"

/-- The options of each command. -/
def commandOptions? : String → Option Options
  | "run" => some ⟨[settingsOption, "storage", "global"], ["timestamps"]⟩
  | "check" => some ⟨[settingsOption], ["strict"]⟩
  | "rules" => some ⟨[settingsOption], []⟩
  | _ => none

/-- The command of a name with its arguments taken apart. -/
def command? (name : String) (parts : Parts) : Option Command :=
  match name, parts.others with
  | "run", [flow] =>
    if flow.isEmpty then none
    else some (.run flow (Keyed.get? "storage" parts.valued) (Keyed.get? "global" parts.valued)
      (parts.plain.contains "timestamps"))
  | "check", [flow] =>
    if flow.isEmpty then none else some (.check flow (parts.plain.contains "strict"))
  | "rules", [] => some .rules
  | _, _ => none

/-- The file of settings that arguments name; it may not be empty. -/
def settingsOf? (parts : Parts) : Option (Option String) :=
  match Keyed.get? settingsOption parts.valued with
  | some "" => none
  | path => some path

/-- The invocation that arguments denote. -/
def Invocation.parse? (args : List String) : Option Invocation := do
  let (before, rest) ← takeApart? ⟨[settingsOption], []⟩ true {} args
  match rest with
  | [] => none
  | name :: rest =>
    let (after, _) ← takeApart? (← commandOptions? name) false {} rest
    let outer ← settingsOf? before
    let inner ← settingsOf? after
    return ⟨inner.or outer, ← command? name after⟩

end Dialogue.Console
