import Dialogue.Host
import Dialogue.Document.Basic
import Dialogue.Store.Basic
/-!
# Turns

A turn is one evaluation of one step. While it runs it holds the step as branches have changed it,
where the conversation goes next, and what the user answered. Everything else it touches is its
scene: the store, the world of the host, and what was said.

## Main definitions

- `Turn`, `Turn.accept`, `Turn.reject`, `Turn.interrupt` — the state of a turn
- `Turn.reply` — the answer of the user, or why there is none
- `Notice`, `Scene` — what a turn says and touches
-/

namespace Dialogue

/-- Why a turn is abandoned: the conversation was paused, or the user was idle. -/
inductive Interruption where
  | aborted
  | idle
  deriving DecidableEq, Repr, Inhabited

/-- The wording of an interruption. -/
def Interruption.message : Interruption → String
  | .aborted => "input aborted"
  | .idle => "input superseded by idle timeout"

/-- Whether the user's answer was taken. -/
inductive InputStatus where
  | none
  | accepted
  | rejected
  deriving DecidableEq, Repr, Inhabited

/-- The state of a turn. -/
structure Turn where
  /-- The step, as branches have changed it. -/
  step : Step
  location : Location
  /-- Where the conversation goes next. -/
  nextLink : Option Location
  input : Option String := none
  inputStatus : InputStatus := .none
  /-- Why the answer was not taken. -/
  rejection : Option String := none
  interrupted : Option Interruption := none
  /-- Whether the user was asked. -/
  inputRequested : Bool := false
  deriving BEq, Repr, Inhabited

/-- What asking the user gives. -/
inductive Reply where
  | text (input : String)
  | interrupted (reason : Interruption)
  /-- The user has to be waited for. -/
  | pending
  deriving DecidableEq, Repr, Inhabited

namespace Turn

/-- The turn of a step. -/
def ofStep (step : Step) (location : Location) (nextLink : Option Location) : Turn :=
  { step, location, nextLink }

/-- The answer of the user. It stays the same once it is there, and so does an interruption. -/
def reply (turn : Turn) : Reply :=
  match turn.input, turn.interrupted with
  | some text, _ => .text text
  | none, some reason => .interrupted reason
  | none, none => .pending

/-- Note that the user is asked. -/
def request (turn : Turn) : Turn := { turn with inputRequested := true }

/-- Note the answer of the user. -/
def receive (turn : Turn) (text : String) : Turn := { turn with input := some text }

/-- Take the answer. -/
def accept (turn : Turn) : Turn := { turn with inputStatus := .accepted }

/-- Do not take the answer, unless it is taken already. -/
def reject (turn : Turn) (message : String) : Turn :=
  { turn with
    rejection := some message
    inputStatus := if turn.inputStatus = .accepted then .accepted else .rejected }

/-- Abandon the turn; the first reason stays. -/
def interrupt (turn : Turn) (reason : Interruption) : Turn :=
  { turn with interrupted := turn.interrupted.or (some reason) }

/-- Whether the turn ends with an answer that was not taken. A turn that failed does not. -/
def isRejected (turn : Turn) (failed : Bool) : Bool :=
  !failed && turn.inputStatus == .rejected

/-- Where the turn leads: after a rejected answer to its own step. -/
def destination (turn : Turn) (failed : Bool) : Option Location :=
  if turn.isRejected failed then some turn.location else turn.nextLink

end Turn

/-- What a turn tells the outside: a text for the user, or a fault. -/
inductive Notice where
  | printed (text : String)
  | reported (fault : Fault)
  deriving DecidableEq, Repr, Inhabited

/-- What a turn touches. -/
structure Scene (σ : Type) where
  store : Store
  world : σ
  /-- What was said, in order. -/
  notices : Array Notice := #[]

namespace Scene

variable {σ : Type}

/-- Print a text. -/
def print (scene : Scene σ) (text : String) : Scene σ :=
  { scene with notices := scene.notices.push (.printed text) }

/-- Report a fault. -/
def report (scene : Scene σ) (fault : Fault) : Scene σ :=
  { scene with notices := scene.notices.push (.reported fault) }

/-- Store a value. -/
def set (scene : Scene σ) (path : String) (value : Json) : Scene σ :=
  { scene with store := scene.store.set path value }

end Scene

end Dialogue
