import Dialogue.Pattern
import Dialogue.Template
import Dialogue.Number.Duration
import Dialogue.Turn.Basic
/-!
# Directives

A turn carries out the directives of its step one after the other. A directive lets the turn go on,
ends it, fails, or has to wait: for the user, after which it is carried out again, or for a while.

## Main definitions

- `Directive`, `Directive.standard` — the directives in their usual order
- `Directive.run` — carrying out one directive
-/

namespace Dialogue

/-- A part of a step that a turn carries out. -/
inductive Directive where
  | switch
  | clear
  | message
  | next
  | input
  | links
  | execute
  | request
  | delay
  deriving DecidableEq, Repr, Inhabited

/-- How a turn goes on after a directive. -/
inductive Signal where
  | proceed
  | halt
  | fail (fault : Fault)
  /-- Carry the directive out again when the user has answered. -/
  | ask
  /-- Go on after a while. -/
  | rest (d : Duration)
  deriving DecidableEq, Repr, Inhabited

namespace Directive

variable {σ : Type}

/-- Every directive, in the usual order. -/
def standard : List Directive :=
  [.switch, .clear, .message, .next, .input, .links, .execute, .request, .delay]

/-- The name of a directive. -/
def name : Directive → String
  | .switch => "switch"
  | .clear => "clear"
  | .message => "message"
  | .next => "next"
  | .input => "input"
  | .links => "links"
  | .execute => "execute"
  | .request => "request"
  | .delay => "delay"

/-- The directive of a name. -/
def ofName? (name : String) : Option Directive := standard.find? (·.name == name)

/-- What a message says when a choice is not among the choices. -/
def choiceRejection : String := "Invalid choice. Please input a valid choice."

/-- What a message says when a text does not match. -/
def patternRejection : String := "Invalid input. The input doesn't match the required pattern."

/-- What a message says when an answer names no link. -/
def linkRejection : String := "Input a valid link choice."

/-- What a directive gives: how the turn goes on, and what has changed. -/
abbrev Result (σ : Type) := Signal × Turn × Scene σ

/-- The turn goes on. -/
def proceed (turn : Turn) (scene : Scene σ) : Result σ := (.proceed, turn, scene)

/-- The turn fails. -/
def fail (fault : Fault) (turn : Turn) (scene : Scene σ) : Result σ := (.fail fault, turn, scene)

/-- The location that a target with placeholders denotes. -/
def resolve (store : Store) (target : String) : Except Fault Location :=
  Location.read (store.expand target)

/-- Go to a target next. -/
def goTo (target : String) (turn : Turn) (scene : Scene σ) : Result σ :=
  match resolve scene.store target with
  | .ok location => proceed { turn with nextLink := some location } scene
  | .error fault => fail fault turn scene

/-- Go on with the answer of the user, or wait for it. -/
def withInput (turn : Turn) (scene : Scene σ) (use : String → Result σ) : Result σ :=
  match turn.reply with
  | .text answer => use answer
  | .interrupted _ => (.halt, turn, scene)
  | .pending => (.ask, turn.request, scene)

/-- The key of a branch: the text of the value that decides. -/
def branchKey (store : Store) (subject : String) : String :=
  ((store.get? subject).map Json.plain).getD "undefined"

/-- The step with its branch taken. -/
def branched (store : Store) (step : Step) : Step :=
  match step.switch with
  | none => step
  | some branch =>
    match (Keyed.get? (branchKey store branch.subject) branch.cases).or branch.fallback with
    | some case => case.onto step
    | none => { step with switch := none }

/-- The value of an input as it is stored. -/
def inputValue (store : Store) (input : Input) (value : Json) : Json :=
  if input.expandValue then store.expandValue value else value

/-- The expression of a text input, if it has a pattern. -/
def inputPattern (input : Input) (location : Location) : Except Fault (Option Pattern.Regex) :=
  match input.pattern with
  | none => .ok none
  | some pattern =>
    match Pattern.compile pattern with
    | .ok regex => .ok (some regex)
    | .error defect => .error (.invalidPattern pattern location defect)

/-- Carry out an input directive that has a variable. -/
def runInput (input : Input) (path : String) (turn : Turn) (scene : Scene σ) : Result σ :=
  match input.kind with
  | .set => proceed turn (scene.set path (inputValue scene.store input input.value))
  | .choice =>
    match input.choices with
    | none => fail (.missingProperty "choices" turn.location) turn scene
    | some choices =>
      withInput turn scene fun text =>
        match Keyed.get? text choices with
        | some value =>
          proceed turn.accept (scene.set path (inputValue scene.store input value))
        | none => proceed (turn.reject (input.rejectMessage.getD choiceRejection)) scene
  | .text =>
    match inputPattern input turn.location with
    | .error fault => fail fault turn scene
    | .ok pattern =>
      withInput turn scene fun text =>
        if (pattern.map (·.search text)).getD true then
          proceed turn.accept (scene.set path (.text text))
        else proceed (turn.reject (input.rejectMessage.getD patternRejection)) scene

/-- An argument as a function receives it. -/
def argument (store : Store) (expand : Bool) (arg : Json) : Json :=
  match arg with
  | .text s =>
    if expand && (Template.lone? s).isSome then (store.lone? s).getD .null else arg
  | _ => arg

/-- Store a value at a path, if there is one. -/
def storeAt (path : Option String) (value : Json) (scene : Scene σ) : Scene σ :=
  match path with
  | some path => scene.set path value
  | none => scene

/-- Call a function. -/
def runCall (host : Host σ) (call : Call) (turn : Turn) (scene : Scene σ) : Result σ :=
  match Keyed.get? call.function host.functions with
  | none => proceed turn (scene.report (.functionNotFound call.function turn.location))
  | some function =>
    let args := call.args.map (argument scene.store call.expandArgs)
    let (result, world) := function args scene.world
    let scene := { scene with world }
    match result with
    | .ok (some value) => proceed turn (storeAt call.output value scene)
    | .ok none => proceed turn scene
    | .error reason =>
      proceed turn (scene.report (.functionFailed call.function turn.location reason))

/-- A request with its placeholders replaced. -/
def expanded (store : Store) (fetch : Fetch) : Request where
  url := if fetch.expandUrl then store.expand fetch.url else fetch.url
  method := fetch.method
  headers := fetch.headers.map fun (name, value) => (name, store.expand value)
  body := if fetch.expandBody then fetch.body.map store.expandValue else fetch.body

/-- Send a request. -/
def runFetch (host : Host σ) (fetch : Fetch) (turn : Turn) (scene : Scene σ) : Result σ :=
  let request := expanded scene.store fetch
  if request.method = .get ∧ request.body.isSome then
    proceed turn (scene.report (.getWithBody turn.location))
  else
    let (result, world) := host.send request scene.world
    let scene := { scene with world }
    match result with
    | .ok text => proceed turn (storeAt fetch.output (Json.ofResponse text) scene)
    | .error reason =>
      let scene := scene.report (.requestFailed request.url turn.location reason)
      match fetch.failNext with
      | some target => goTo target turn scene
      | none => proceed turn scene

/-- Wait a number of seconds. -/
def runDelay (seconds : Binary64) (turn : Turn) (scene : Scene σ) : Result σ :=
  if !(seconds.isFinite && seconds.isPositive) then proceed turn scene
  else
    match Duration.ofSeconds? seconds with
    | some d => (.rest d, turn, scene)
    | none => fail (.invalidDelay seconds turn.location) turn scene

/-- Carry out a directive. -/
def run (host : Host σ) (directive : Directive) (turn : Turn) (scene : Scene σ) : Result σ :=
  match directive with
  | .switch => proceed { turn with step := branched scene.store turn.step } scene
  | .clear =>
    if turn.step.clearVariables = some true then
      proceed turn { scene with store := scene.store.clear }
    else proceed turn scene
  | .message =>
    match turn.step.message with
    | some said => proceed turn (scene.print (scene.store.expand said.text))
    | none => proceed turn scene
  | .next =>
    match turn.step.next with
    | some target => goTo target turn scene
    | none => proceed turn scene
  | .input =>
    match turn.step.input with
    | none => proceed turn scene
    | some spec =>
      match spec.variablePath with
      | none => fail (.missingProperty "variable" turn.location) turn scene
      | some path =>
        if path.isEmpty then fail (.missingProperty "variable" turn.location) turn scene
        else runInput spec path turn scene
  | .links =>
    match turn.step.links with
    | none => proceed turn scene
    | some targets =>
      withInput turn scene fun text =>
        match Keyed.get? text targets with
        | some target => goTo target turn scene
        | none => proceed (turn.reject linkRejection) scene
  | .execute =>
    match turn.step.execute with
    | some call => runCall host call turn scene
    | none => proceed turn scene
  | .request =>
    match turn.step.request with
    | some fetch => runFetch host fetch turn scene
    | none => proceed turn scene
  | .delay =>
    match turn.step.delay with
    | some seconds => runDelay seconds turn scene
    | none => proceed turn scene

end Directive

end Dialogue
