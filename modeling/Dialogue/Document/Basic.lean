import Dialogue.Fault
import Dialogue.Step.Basic
import Dialogue.Text.Case
/-!
# Documents

A document is a map from page ids to rows of steps, with triggers that start a conversation and
settings of its own.

## Main definitions

- `Document`, `Document.step?`
- `Document.trigger?` — the target of the trigger that an input names
- `Document.current`, `Document.following?`, `Document.navigate` — moving through a document
-/

namespace Dialogue

/-- Settings that a document brings along. -/
structure DocumentSettings where
  /-- Whether the case of a trigger matters. -/
  caseSensitiveTrigger : Option Bool := none
  /-- How long to wait for the user before the conversation is idle. -/
  idleAfterSeconds : Option Binary64 := none
  deriving DecidableEq, Repr, Inhabited

/-- The pages, triggers and settings of a conversation. -/
structure Document where
  pages : Keyed (List Step) := []
  /-- Inputs that start the conversation, each with its target. -/
  triggers : Keyed String := []
  settings : DocumentSettings := {}
  deriving BEq, Repr, Inhabited

namespace Document

/-- The steps of a page. -/
def page? (document : Document) (id : String) : Option (List Step) :=
  Keyed.get? id document.pages

/-- The step at a location. -/
def step? (document : Document) (location : Location) : Option Step :=
  (document.page? location.page).bind (·[location.index]?)

/-- Whether the conversation waits for a trigger to start. -/
def hasTriggers (document : Document) : Bool := !document.triggers.isEmpty

/-- The target of the first trigger that is the input, up to case unless case matters. -/
def trigger? (document : Document) (caseSensitive : Bool) (input : String) : Option String :=
  (document.triggers.find? fun (trigger, _) =>
    if caseSensitive then trigger == input else lowercase trigger == lowercase input).map (·.2)

/-- The step at the current location, if there is one; a fault when it is no step. -/
def current (document : Document) (location : Option Location) : Except Fault (Option Step) :=
  match location with
  | none => .ok none
  | some location =>
    match document.step? location with
    | some step => .ok (some step)
    | none => .error (.navigation none location.text)

/-- The following step of the same page, if there is one. -/
def following? (document : Document) (location : Option Location) : Option Location := do
  let location ← location
  let steps ← document.page? location.page
  if location.index + 1 < steps.length then some location.successor else none

/-- Move from a location to a target, or to no step; a fault when the target is no step. -/
def navigate (document : Document) (source target : Option Location) :
    Except Fault (Option Location) :=
  match target with
  | none => .ok none
  | some location =>
    if (document.step? location).isSome then .ok target
    else .error (.navigation source location.text)

end Document

end Dialogue
