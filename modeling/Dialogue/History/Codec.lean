import Dialogue.History.Replay
import Dialogue.Json.Record
/-!
# Histories in JSON

A segment of a path is a string or a whole number. A patch names its kind in the member `op`; it may
also be an array that starts with the kind.

## Main definitions

- `Patch.ofJson?`, `Patch.toJson`
- `HistoryEntry.ofJson?`, `HistoryEntry.toJson`, `HistoryState.toJson`
-/

namespace Dialogue

namespace Segment

/-- The segment that a value denotes. -/
def ofJson? : Json → Option Segment
  | .text name => some (.key name)
  | j => j.natural?.map .index

/-- The form of a segment. -/
def toJson : Segment → Json
  | .key name => .text name
  | .index position => .whole position

end Segment

namespace Patch

/-- The patch of a kind, given a path and perhaps a value. -/
def ofParts? (kind : String) (path value : Option Json) : Option Patch := do
  let path ← path
  let path ← path.items? Segment.ofJson?
  match kind with
  | "add" => value.map (.add path)
  | "replace" => value.map (.replace path)
  | "remove" => some (.remove path)
  | _ => none

/-- The patch that a value denotes. -/
def ofJson? : Json → Option Patch
  | .object fields =>
    match Keyed.get? "op" fields with
    | some (.text kind) => ofParts? kind (Keyed.get? "path" fields) (Keyed.get? "value" fields)
    | _ => none
  | .array [.text "remove", path] => ofParts? "remove" (some path) none
  | .array [.text "add", path, value] => ofParts? "add" (some path) (some value)
  | .array [.text "replace", path, value] => ofParts? "replace" (some path) (some value)
  | _ => none

/-- The form of a patch. -/
def toJson : Patch → Json
  | .add path value => .record [
    ("op", some (.text "add")), ("path", some (.array (path.map Segment.toJson))),
    ("value", some value)]
  | .remove path => .record [
    ("op", some (.text "remove")), ("path", some (.array (path.map Segment.toJson)))]
  | .replace path value => .record [
    ("op", some (.text "replace")), ("path", some (.array (path.map Segment.toJson))),
    ("value", some value)]

end Patch

namespace Line

/-- The kind of line that a value names. -/
def kindOfJson? (j : Json) : Option LineKind :=
  match j.choice? with
  | some "input" => some .input
  | some "output" => some .output
  | _ => none

/-- The line that a value denotes. -/
def ofJson? (j : Json) : Option Line := do
  match ← Record.slots? [["kind"], ["message"]] j with
  | [kind, message] =>
    return ⟨← Record.required kindOfJson? kind, ← Record.required Json.text? message⟩
  | _ => none

/-- The form of a line. -/
def toJson (line : Line) : Json := .record [
  ("kind", some (.text (match line.kind with
    | .input => "input"
    | .output => "output"))),
  ("message", some (.text line.message))]

end Line

/-- The location that a string denotes. -/
def Location.ofJson? (j : Json) : Option Location := j.text?.bind Location.parse?

/-- The form of a location that may be missing. -/
def Location.toJson (location : Option Location) : Json :=
  (location.map fun l => Json.text l.text).getD .null

namespace HistoryEntry

/-- The entry that a value denotes; no field of an entry written as an array may be missing. -/
def ofJson? (j : Json) : Option HistoryEntry := do
  match j with
  | .array items => guard (items.length == 3)
  | _ => pure ()
  match ← Record.slots? [["ios"], ["storage_patches"], ["location"]] j with
  | [lines, patches, location] =>
    return {
      lines := ← Record.required (Json.items? Line.ofJson?) lines
      patches := ← Record.required (Json.items? Patch.ofJson?) patches
      location := ← Record.optional Location.ofJson? location }
  | _ => none

/-- The form of an entry. -/
def toJson (entry : HistoryEntry) : Json := .record [
  ("ios", some (.array (entry.lines.map Line.toJson))),
  ("storage_patches", some (.array (entry.patches.map Patch.toJson))),
  ("location", some (Location.toJson entry.location))]

end HistoryEntry

/-- The form of a state. -/
def HistoryState.toJson (state : HistoryState) : Json := .record [
  ("ios", some (.array (state.lines.map Line.toJson))),
  ("storage", some state.own),
  ("location", some (Location.toJson state.location))]

end Dialogue
