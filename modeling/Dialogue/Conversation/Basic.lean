import Dialogue.Conversation.Event
import Dialogue.Settings
import Dialogue.Turn.Run
/-!
# Conversations

A conversation over a document is a state that moves in small steps. Between two steps it is off, at
the top of its loop, or waiting: for any input when no step is current, for the answer to a step, or
for a delay to pass. The host sees its status, its location and its events.

## Main definitions

- `Script` — what stays the same: the document, the settings, the directives and the host
- `Phase`, `Conversation` — the state
- `Conversation.ofScript` — the state at first
-/

namespace Dialogue

/-- What a conversation follows and never changes. -/
structure Script (σ : Type) where
  document : Document
  settings : Settings
  directives : List Directive := Directive.standard
  host : Host σ

namespace Script

variable {σ : Type}

/-- A script whose settings are changed by its document. -/
def ofDocument (document : Document) (settings : Settings) (host : Host σ)
    (directives : List Directive := Directive.standard) : Script σ :=
  { document, settings := settings.withDocument document.settings, directives, host }

/-- The first step of the entry page. -/
def entry (script : Script σ) : Location := .start script.settings.entryPage

/-- The first step of the idle page. -/
def idle (script : Script σ) : Location := .start script.settings.idlePage

/-- Where a conversation is at first: nowhere if it waits for a trigger. -/
def initial (script : Script σ) : Option Location :=
  if script.document.hasTriggers then none else some script.entry

end Script

/-- A turn that waits: what is left of it, and the variables before it if patches are recorded. -/
structure Suspended where
  turn : Turn
  left : List Directive
  before : Option Json
  deriving BEq, Repr, Inhabited

/-- Where a conversation is in its loop. -/
inductive Phase where
  /-- No loop is running. -/
  | off
  /-- At the top of the loop. -/
  | ready
  /-- Waiting for any input, with no current step. -/
  | entering
  /-- Waiting for the answer to a step, until a deadline if there is one. -/
  | asking (turn : Suspended) (deadline : Option Nat)
  /-- Waiting for a delay to pass. -/
  | resting (turn : Suspended) (wake : Nat)
  /-- The loop broke down, because a deadline could not be counted. -/
  | broken
  deriving BEq, Repr, Inhabited

/-- The state of a conversation. -/
structure Conversation (σ : Type) where
  store : Store
  world : σ
  /-- The location of the current step. -/
  head : Option Location
  /-- The location as the host sees it. -/
  location : Option Location
  status : Status := .paused
  /-- How often the loop has handed control back. -/
  yields : Nat := 0
  /-- How many steps in a row ran without waiting for the user. -/
  freeSteps : Nat := 0
  /-- Inputs that are accepted and not received yet. -/
  queue : List String := []
  phase : Phase := .off
  /-- Whether the loop has been told to end. -/
  cancelled : Bool := false
  events : Array Event := #[]
  inputs : Array String := #[]
  outputs : Array String := #[]

namespace Conversation

variable {σ : Type}

/-- A conversation that has not been started. -/
def ofScript (script : Script σ) (store : Store) (world : σ) : Conversation σ :=
  { store, world, head := script.initial, location := script.initial }

/-- Whether a loop is running and has not been told to end. -/
def isRunning (c : Conversation σ) : Bool := c.phase != .off && !c.cancelled

/-- Let the host know of an event. -/
def emit (c : Conversation σ) (event : Event) : Conversation σ :=
  { c with events := c.events.push event }

/-- Change the status; the host learns of it if it is another one. -/
def setStatus (c : Conversation σ) (status : Status) : Conversation σ :=
  if c.status = status then c else { c with status }.emit (.status status)

/-- Hand control back with a status. -/
def suspend (c : Conversation σ) (status : Status) : Conversation σ :=
  { c with yields := c.yields + 1 }.setStatus status

/-- Print a text. -/
def print (script : Script σ) (c : Conversation σ) (text : String) : Conversation σ :=
  { c with
    outputs := if script.settings.recordOutputs then c.outputs.push text else c.outputs }.emit
      (.output text)

/-- Report a fault. -/
def report (c : Conversation σ) (fault : Fault) : Conversation σ := c.emit (.fault fault)

/-- Note that an input is received. -/
def received (script : Script σ) (c : Conversation σ) (text : String) : Conversation σ :=
  let c := c.setStatus .busy
  { c with inputs := if script.settings.recordInputs then c.inputs.push text else c.inputs }.emit
    (.input text)

/-- Make a location, or none, the current one and let the host see it. -/
def place (c : Conversation σ) (location : Option Location) : Conversation σ :=
  { c with head := location, location }

/-- Take over what a turn has left in its scene. -/
def absorb (script : Script σ) (c : Conversation σ) (scene : Scene σ) : Conversation σ :=
  scene.notices.foldl
    (fun c notice => match notice with
      | .printed text => c.print script text
      | .reported fault => c.report fault)
    { c with store := scene.store, world := scene.world }

end Conversation

end Dialogue
