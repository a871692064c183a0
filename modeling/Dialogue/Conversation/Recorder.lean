import Dialogue.Conversation.Basic
/-!
# Recorders

A recorder is attached to a conversation at some moment. From then on it tells the history of the
conversation: an entry for every turn, and the state after any number of them.

## Main definitions

- `Recorder`, `Recorder.attach`
- `Recorder.entries`, `Recorder.stateAt`, `Recorder.currentState`
-/

namespace Dialogue

/-- The moment at which a history begins. -/
structure Recorder where
  /-- The variables at that moment. -/
  start : Json
  /-- How many events had come before. -/
  skipped : Nat
  deriving BEq, Repr, Inhabited

namespace Recorder

variable {σ : Type}

/-- A recorder for what comes next. Where nothing at all is stored, the history starts from no
variables. -/
def attach (c : Conversation σ) : Recorder where
  start := if c.store.own.isNull then .object [] else c.store.own
  skipped := c.events.size

/-- The entries since the recorder was attached. -/
def entries (r : Recorder) (c : Conversation σ) : List HistoryEntry :=
  HistoryEntry.ofEvents (c.events.toList.drop r.skipped)

/-- The state after the first entries; all of them if there are fewer. -/
def stateAt (r : Recorder) (c : Conversation σ) (count : Nat) : Except PatchFault HistoryState :=
  HistoryState.replay r.start ((r.entries c).take count)

/-- The state after all entries. -/
def currentState (r : Recorder) (c : Conversation σ) : Except PatchFault HistoryState :=
  HistoryState.replay r.start (r.entries c)

end Recorder

end Dialogue
