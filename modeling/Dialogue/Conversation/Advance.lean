import Dialogue.Conversation.Basic
/-!
# How a conversation advances

At the top of its loop a conversation ends when it has been told to, waits for an input when no step
is current, and otherwise runs the current step. A wait ends when the conversation is told to end,
when an input is there, or when its time has come, whichever is looked at first.

## Main definitions

- `Conversation.advance?` — the next small step, if there is one at this instant
- `Conversation.settle` — as many small steps as there are
-/

namespace Dialogue

namespace Conversation

variable {σ : Type}

/-- The variable that holds where an idle detour leads back to. -/
def returnVariable : String := "_continue"

/-- The number of seconds that a clock which reads zero can be moved ahead by. What the clock reads
when a wait begins is left out: a wait that falls short of the bound by no more than that counts as
countable here, although it cannot be counted. -/
def clockBound : Nat := 2 ^ 63

/-- Move to a target; a fault when it is no step, and then no step is current. -/
def follow (script : Script σ) (c : Conversation σ) (target : Location) : Conversation σ :=
  match script.document.navigate c.head (some target) with
  | .ok head => c.place head
  | .error fault => (c.report fault).place none

/-- The changes to the variables since a turn began, if patches are recorded. -/
def changes (c : Conversation σ) (before : Option Json) : Option (List Patch) :=
  before.map (·.diff c.store.own)

/-- Remember where to come back to and visit the idle page; without such a step, stay. -/
def detour (script : Script σ) (c : Conversation σ) (location : Location) : Conversation σ :=
  let c := { c with store := c.store.set returnVariable (.text location.text), freeSteps := 0 }
  match script.document.navigate c.head (some script.idle) with
  | .ok head => c.place head
  | .error fault => (c.report fault).place c.head

/-- Leave a page whose last step is complete: wait for a trigger, or start over at the entry
page. -/
def leavePage (script : Script σ) (c : Conversation σ) (location : Location) : Conversation σ :=
  let c := c.emit (.page location.page)
  if script.document.hasTriggers then c.place none else c.follow script script.entry

/-- Move on after a turn: to a target, or off the page. -/
def moveOn (script : Script σ) (c : Conversation σ) (location : Location)
    (target : Option Location) : Conversation σ :=
  match target with
  | some target => c.follow script target
  | none => c.leavePage script location

/-- Count a turn: the row of steps without the user starts over when the user was asked. -/
def count (c : Conversation σ) (turn : Turn) : Conversation σ :=
  { c with freeSteps := if turn.inputRequested then 0 else c.freeSteps + 1 }

/-- Print why an answer was not taken. -/
def printRejection (script : Script σ) (c : Conversation σ) (turn : Turn) (failed : Bool) :
    Conversation σ :=
  match turn.isRejected failed, turn.rejection with
  | true, some message => c.print script message
  | _, _ => c

/-- Complete a turn: let the host know and move on. After a rejected answer the same step runs
again. -/
def complete (script : Script σ) (before : Option Json) (turn : Turn) (failed : Bool)
    (c : Conversation σ) : Conversation σ :=
  let c := (c.count turn).printRejection script turn failed
  let next := turn.destination failed
  (c.emit (.step turn.location turn.step next (c.changes before))).moveOn script turn.location next

/-- Report a fault, if there is one. -/
def reportAny (c : Conversation σ) (fault : Option Fault) : Conversation σ :=
  match fault with
  | some fault => c.report fault
  | none => c

/-- Give way to what has interrupted a turn: an idle user is led to the idle page. -/
def giveWay (script : Script σ) (c : Conversation σ) (location : Location)
    (reason : Interruption) : Conversation σ :=
  match reason with
  | .aborted => c
  | .idle => c.detour script location

/-- End a turn that has nothing left to do. -/
def finish (script : Script σ) (before : Option Json) (turn : Turn) (fault : Option Fault)
    (c : Conversation σ) : Conversation σ :=
  let c := { c with phase := .ready }.reportAny fault
  match turn.interrupted with
  | some reason =>
    let c := c.giveWay script turn.location reason
    c.emit (.interrupted turn.location reason c.head (c.changes before))
  | none => c.complete script before turn fault.isSome

/-- Wait for the answer to a step. The deadline is checked as for a clock that reads zero
(`clockBound`). -/
def ask (script : Script σ) (clock : Nat) (turn : Suspended) (c : Conversation σ) :
    Conversation σ :=
  let c := c.suspend .waitingInput
  match script.settings.patience with
  | .endless => { c with phase := .asking turn none }
  | .uncountable => { c with phase := .broken }
  | .limited d =>
    if d.nanoseconds < clockBound * 10 ^ 9 then
      { c with phase := .asking turn (some (clock + d.wait)) }
    else { c with phase := .broken }

/-- Carry out what is left of a turn until it has to wait or is over. -/
def carryOn (script : Script σ) (clock : Nat) (before : Option Json) (left : List Directive)
    (turn : Turn) (c : Conversation σ) : Conversation σ :=
  let (progress, turn, scene) :=
    turn.run script.host left { store := c.store, world := c.world }
  let c := c.absorb script scene
  match progress with
  | .done fault => c.finish script before turn fault
  | .asking left => c.ask script clock ⟨turn, left, before⟩
  | .resting d left => { c with phase := .resting ⟨turn, left, before⟩ (clock + d.wait) }

/-- Whether too many steps in a row ran without waiting for the user. A step that may wait always
gets to run. -/
def inFreefall (script : Script σ) (c : Conversation σ) (step : Step) : Bool :=
  script.settings.freefallLimit ≤ c.freeSteps && !step.awaitsInput

/-- Begin the current step. -/
def beginStep (script : Script σ) (clock : Nat) (location : Location) (c : Conversation σ) :
    Conversation σ :=
  match script.document.step? location with
  | none => (c.report (.navigation none location.text)).place none
  | some step =>
    if c.inFreefall script step then
      ({ c with freeSteps := 0 }.report
        (.freefall script.settings.freefallLimit (some location))).place none
    else
      c.carryOn script clock
        (if script.settings.recordPatches then some c.store.own else none) script.directives
        (Turn.ofStep step location (script.document.following? (some location)))

/-- The target that an input leads to while no step is current. -/
def entryTarget? (script : Script σ) (text : String) : Option String :=
  if script.document.hasTriggers then
    script.document.trigger? script.settings.caseSensitiveTriggers text
  else some script.settings.entryPage

/-- Enter at the target of an input, if it has one. -/
def enter (script : Script σ) (text : String) (c : Conversation σ) : Conversation σ :=
  let c := { c with phase := .ready }
  match entryTarget? script text with
  | none => c
  | some target =>
    match (Location.read target).bind fun l => script.document.navigate c.head (some l) with
    | .ok head => { c with freeSteps := 0 }.place head
    | .error fault => c.report fault

/-- End the loop; inputs that are not received belong to the turn that was abandoned. -/
def endLoop (c : Conversation σ) : Conversation σ :=
  { c with queue := [], phase := .off }.suspend .paused

/-- Abandon a turn. -/
def abandon (script : Script σ) (turn : Suspended) (reason : Interruption) (c : Conversation σ) :
    Conversation σ :=
  c.finish script turn.before (turn.turn.interrupt reason) none

/-- Let the host know that the user is idle; with an idle page, abandon the turn for it. -/
def goIdle (script : Script σ) (turn : Suspended) (c : Conversation σ) : Conversation σ :=
  let location := turn.turn.location
  let c := c.emit (.idle location ((script.document.step? location).getD turn.turn.step))
  if (script.document.page? script.settings.idlePage).isSome then
    (c.setStatus .busy).abandon script turn .idle
  else { c with phase := .asking turn none }

/-- The next small step, if there is one at this instant. -/
def advance? (script : Script σ) (clock : Nat) (c : Conversation σ) : Option (Conversation σ) :=
  match c.phase with
  | .off => none
  | .broken => none
  | .ready =>
    if c.cancelled then some c.endLoop
    else
      match c.head with
      | none => some { c.suspend .waitingInput with phase := .entering }
      | some location => some (c.beginStep script clock location)
  | .entering =>
    if c.cancelled then some c.endLoop
    else
      match c.queue with
      | [] => none
      | text :: rest => some (({ c with queue := rest }.received script text).enter script text)
  | .asking turn deadline =>
    if c.cancelled then some (c.abandon script turn .aborted)
    else
      match c.queue, deadline with
      | text :: rest, _ =>
        some (({ c with queue := rest }.received script text).carryOn script clock turn.before
          turn.left (turn.turn.receive text))
      | [], some deadline => if deadline ≤ clock then some (c.goIdle script turn) else none
      | [], none => none
  | .resting turn wake =>
    if c.cancelled then some (c.abandon script turn .aborted)
    else if wake ≤ clock then
      some (c.carryOn script clock turn.before turn.left turn.turn)
    else none

/-- Advance as long as there is something to do at this instant, at most `fuel` times. -/
def settleFrom (script : Script σ) (clock : Nat) : Nat → Conversation σ → Conversation σ
  | 0, c => c
  | fuel + 1, c =>
    match c.advance? script clock with
    | none => c
    | some c => settleFrom script clock fuel c

/-- How often a conversation may advance at one instant. -/
def laps (script : Script σ) : Nat := script.settings.freefallLimit + 2 ^ 20

/-- Advance as long as there is something to do at this instant. -/
def settle (script : Script σ) (clock : Nat) (c : Conversation σ) : Conversation σ :=
  settleFrom script clock (laps script) c

/-- When the conversation goes on by itself, if it does. -/
def alarm? (c : Conversation σ) : Option Nat :=
  match c.phase with
  | .asking _ deadline => deadline
  | .resting _ wake => some wake
  | _ => none

end Conversation

end Dialogue
