import Dialogue.Conversation.Advance
/-!
# Calls of the host

What a host may ask of a conversation. Each call takes effect at once; what follows from it happens
when the conversation advances. A refused call changes nothing.

## Main definitions

- `Conversation.start`, `Conversation.input`, `Conversation.navigate`
- `Conversation.cancel`, `Conversation.markPaused` — the two halves of pausing
-/

namespace Dialogue

namespace Conversation

variable {σ : Type}

/-- Start the loop. -/
def start (c : Conversation σ) : Except CallFault (Conversation σ) :=
  if c.isRunning || c.status != .paused then .error .alreadyRunning
  else .ok { c.setStatus .busy with phase := .ready, cancelled := false }

/-- Give the conversation an input, if it waits for one. -/
def input (c : Conversation σ) (text : String) : Except CallFault (Conversation σ) :=
  if c.status = .waitingInput then
    .ok { c.setStatus .busy with queue := c.queue ++ [text] }
  else .error .notWaitingInput

/-- Move a conversation that is paused. -/
def navigate (script : Script σ) (c : Conversation σ) (target : Option Location) :
    Except CallFault (Conversation σ) :=
  if c.phase != .off then .error .busy
  else
    match script.document.navigate c.head target with
    | .ok head => .ok ({ c with freeSteps := 0 }.place head)
    | .error _ => .error (.invalidTarget ((target.map Location.text).getD ""))

/-- Tell the loop to end; one that broke down is over at once. -/
def cancel (c : Conversation σ) : Conversation σ :=
  match c.phase with
  | .off => c
  | .broken => { c with phase := .off }
  | _ => { c with cancelled := true }

/-- Note that the loop has ended. -/
def markPaused (c : Conversation σ) : Conversation σ := c.setStatus .paused

/-- Write a variable from outside. -/
def setVariable (c : Conversation σ) (path : String) (value : Json) : Option (Conversation σ) :=
  (c.store.set? path value).map fun store => { c with store }

end Conversation

end Dialogue
