import Dialogue.History.Replay
import Dialogue.Turn.Basic
/-!
# Events

What a conversation lets its host know, and how the host can misuse it.

## Main definitions

- `Status`, `Event`, `CallFault`
- `HistoryEntry.ofEvents` — the history that a row of events tells
-/

namespace Dialogue

/-- What a conversation is doing. -/
inductive Status where
  /-- Nothing runs. -/
  | paused
  /-- Steps are carried out. -/
  | busy
  /-- The user has to be waited for. -/
  | waitingInput
  deriving DecidableEq, Repr, Inhabited

/-- The name of a status. -/
def Status.name : Status → String
  | .paused => "PAUSED"
  | .busy => "BUSY"
  | .waitingInput => "WAITING_INPUT"

/-- What a conversation lets its host know. -/
inductive Event where
  | status (status : Status)
  | input (text : String)
  | output (text : String)
  /-- A turn is complete; its patches are there when they are recorded. -/
  | step (location : Location) (step : Step) (next : Option Location)
    (patches : Option (List Patch))
  /-- A turn was abandoned; the step will run again from the start, and what was stored stays. -/
  | interrupted (location : Location) (reason : Interruption) (next : Option Location)
    (patches : Option (List Patch))
  /-- The last step of a page is complete. -/
  | page (id : String)
  | fault (fault : Fault)
  /-- The user did not answer in time. -/
  | idle (location : Location) (step : Step)
  | exit
  deriving BEq, Repr, Inhabited

/-- How a host can misuse a conversation. -/
inductive CallFault where
  | alreadyRunning
  | notWaitingInput
  | busy
  | invalidTarget (target : String)
  deriving DecidableEq, Repr, Inhabited

/-- The wording of a misuse. -/
def CallFault.message : CallFault → String
  | .alreadyRunning => "engine is already running"
  | .notWaitingInput => "engine is not waiting for input"
  | .busy => "engine must be paused to navigate"
  | .invalidTarget target => "cannot navigate to '" ++ target ++ "'"

namespace HistoryEntry

/-- The history that events tell, given the lines since the last entry: every turn, complete or
abandoned, is an entry with the lines before it. -/
def ofEventsFrom (lines : List Line) : List Event → List HistoryEntry
  | [] => []
  | .input text :: rest => ofEventsFrom (lines ++ [⟨.input, text⟩]) rest
  | .output text :: rest => ofEventsFrom (lines ++ [⟨.output, text⟩]) rest
  | .step _ _ next patches :: rest => ⟨lines, patches.getD [], next⟩ :: ofEventsFrom [] rest
  | .interrupted _ _ next patches :: rest =>
    ⟨lines, patches.getD [], next⟩ :: ofEventsFrom [] rest
  | _ :: rest => ofEventsFrom lines rest

/-- The history that events tell. -/
def ofEvents (events : List Event) : List HistoryEntry := ofEventsFrom [] events

end HistoryEntry

end Dialogue
