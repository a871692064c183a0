import Dialogue.History.Patch
/-!
# The history of a conversation

Every step that ran leaves an entry: the lines that went in and out, the changes to the variables,
and where the conversation went. Replaying the first entries over the variables at the start gives
the state after them.

## Main definitions

- `Line`, `HistoryEntry`, `HistoryState`
- `HistoryState.replay` — the state after some entries
-/

namespace Dialogue

/-- Whether a line came from the user or from the conversation. -/
inductive LineKind where
  | input
  | output
  deriving DecidableEq, Repr, Inhabited

/-- A line of the transcript. -/
structure Line where
  kind : LineKind
  message : String
  deriving DecidableEq, Repr, Inhabited

/-- What one step changed. -/
structure HistoryEntry where
  lines : List Line
  patches : List Patch
  /-- Where the conversation went after the step. -/
  location : Option Location
  deriving BEq, Repr, Inhabited

/-- A conversation as of some step. -/
structure HistoryState where
  lines : List Line
  own : Json
  location : Option Location
  deriving BEq, Repr, Inhabited

namespace HistoryState

/-- The state after one more entry. -/
def advance (state : HistoryState) (entry : HistoryEntry) : Except PatchFault HistoryState := do
  return {
    lines := state.lines ++ entry.lines
    own := ← state.own.patch entry.patches
    location := entry.location }

/-- The state after some entries, over the variables at the start. -/
def replay (own : Json) (entries : List HistoryEntry) : Except PatchFault HistoryState :=
  entries.foldlM advance ⟨[], own, none⟩

end HistoryState

end Dialogue
