import Dialogue.Document.Basic
import Dialogue.Json.Record
import Dialogue.Number.Duration
/-!
# Settings

How a conversation runs. The settings that a document brings along win over these.

## Main definitions

- `Settings`, `Settings.ofJson?`, `Settings.toJson`
- `Settings.withDocument` — the settings as a document changes them
- `Settings.patience` — how long the user is waited for
-/

namespace Dialogue

/-- How a conversation runs. -/
structure Settings where
  /-- How many steps in a row may run without waiting for the user. -/
  freefallLimit : Nat := 1000
  /-- The page that a conversation starts on. -/
  entryPage : String := "/start"
  /-- The page that is visited when the user is idle, if the document has it. -/
  idlePage : String := "/on-idle"
  /-- How many seconds the user is waited for. -/
  idleAfterSeconds : Option Binary64 := none
  caseSensitiveTriggers : Bool := false
  recordInputs : Bool := false
  recordOutputs : Bool := false
  /-- Whether the changes of each step to the variables are recorded. -/
  recordPatches : Bool := false
  /-- How many events are kept for a slow reader. -/
  eventCapacity : Nat := 1024
  deriving DecidableEq, Repr, Inhabited

/-- How long the user is waited for. -/
inductive Patience where
  | endless
  | limited (d : Duration)
  /-- Longer than can be counted. -/
  | uncountable
  deriving DecidableEq, Repr, Inhabited

namespace Settings

/-- The names of the fields of the settings. -/
def fields : List (List String) :=
  [["freefall_limit"], ["entry_page"], ["idle_page"], ["idle_after_secs"],
    ["case_sensitive_triggers"], ["record_inputs"], ["record_outputs"], ["record_patches"],
    ["event_capacity"]]

/-- The settings that a value denotes; whatever it leaves out keeps its default. -/
def ofJson? (j : Json) : Option Settings := do
  let d : Settings := {}
  match ← Record.slots? fields j with
  | [freefallLimit, entryPage, idlePage, idleAfter, caseSensitive, inputs, outputs, patches,
      capacity] =>
    return {
      freefallLimit := ← Record.defaulted d.freefallLimit Json.natural? freefallLimit
      entryPage := ← Record.defaulted d.entryPage Json.text? entryPage
      idlePage := ← Record.defaulted d.idlePage Json.text? idlePage
      idleAfterSeconds := ← Record.optional Json.real? idleAfter
      caseSensitiveTriggers := ← Record.defaulted d.caseSensitiveTriggers Json.bool? caseSensitive
      recordInputs := ← Record.defaulted d.recordInputs Json.bool? inputs
      recordOutputs := ← Record.defaulted d.recordOutputs Json.bool? outputs
      recordPatches := ← Record.defaulted d.recordPatches Json.bool? patches
      eventCapacity := ← Record.defaulted d.eventCapacity Json.natural? capacity }
  | _ => none

/-- The form of the settings, with every field. -/
def toJson (s : Settings) : Json := .record [
  ("freefall_limit", some (.whole s.freefallLimit)),
  ("entry_page", some (.text s.entryPage)),
  ("idle_page", some (.text s.idlePage)),
  ("idle_after_secs", some ((s.idleAfterSeconds.map .real).getD .null)),
  ("case_sensitive_triggers", some (.bool s.caseSensitiveTriggers)),
  ("record_inputs", some (.bool s.recordInputs)),
  ("record_outputs", some (.bool s.recordOutputs)),
  ("record_patches", some (.bool s.recordPatches)),
  ("event_capacity", some (.whole s.eventCapacity))]

/-- The settings as the settings of a document change them. -/
def withDocument (s : Settings) (d : DocumentSettings) : Settings :=
  { s with
    caseSensitiveTriggers := d.caseSensitiveTrigger.getD s.caseSensitiveTriggers
    idleAfterSeconds := d.idleAfterSeconds.or s.idleAfterSeconds }

/-- How long the user is waited for: without a positive finite number of seconds, forever. -/
def patience (s : Settings) : Patience :=
  match s.idleAfterSeconds with
  | none => .endless
  | some seconds =>
    if seconds.isFinite && seconds.isPositive then
      match Duration.ofSeconds? seconds with
      | some d => .limited d
      | none => .uncountable
    else .endless

end Settings

end Dialogue
