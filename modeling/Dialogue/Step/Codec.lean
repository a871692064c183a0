import Dialogue.Json.Record
import Dialogue.Step.Basic
/-!
# Steps in JSON

A step is a record in which older spellings of some names are aliases. Its canonical form spells
every name one way, leaves out what is absent and writes some defaults out.

## Main definitions

- `Step.ofJson?` — the step that a value denotes
- `Step.toJson` — the canonical form
-/

namespace Dialogue

open Record

namespace Message

/-- The message that a string or an array of strings denotes. -/
def ofJson? : Json → Option Message
  | .text s => some (.whole s)
  | j => (j.items? Json.text?).map .fragments

/-- The canonical form of a message. -/
def toJson : Message → Json
  | .whole s => .text s
  | .fragments parts => .array (parts.map .text)

end Message

namespace InputKind

/-- The name of a kind of input. -/
def name : InputKind → String
  | .text => "text"
  | .choice => "choice"
  | .set => "set"

/-- The kind of input that a value names. -/
def ofJson? (j : Json) : Option InputKind :=
  match j.choice? with
  | some "text" => some .text
  | some "choice" => some .choice
  | some "set" => some .set
  | _ => none

end InputKind

namespace Input

/-- The names of the fields of an input directive. -/
def fields : List (List String) :=
  [["type", "kind"], ["variable", "var", "name"], ["pattern"], ["choices"], ["value"],
    ["rejectMessage", "rejectMsg"], ["expandValue"]]

/-- The input directive that a value denotes. -/
def ofJson? (j : Json) : Option Input := do
  match ← slots? fields j with
  | [kind, variablePath, pattern, choices, value, rejectMessage, expandValue] =>
    return {
      kind := ← required InputKind.ofJson? kind
      variablePath := ← optional Json.text? variablePath
      pattern := ← optional Json.text? pattern
      choices := ← optional (Json.keyed? some) choices
      value := value.getD .null
      rejectMessage := ← optional Json.text? rejectMessage
      expandValue := ← defaulted false Json.bool? expandValue }
  | _ => none

/-- The canonical form of an input directive. -/
def toJson (i : Input) : Json := .record [
  ("type", some (.text i.kind.name)),
  ("variable", i.variablePath.map .text),
  ("pattern", i.pattern.map .text),
  ("choices", i.choices.map .object),
  ("value", if i.value.isNull then none else some i.value),
  ("rejectMessage", i.rejectMessage.map .text),
  ("expandValue", some (.bool i.expandValue))]

end Input

namespace Call

/-- The names of the fields of a call. -/
def fields : List (List String) :=
  [["outputVariable", "var"], ["function", "fn", "functionName"], ["args"],
    ["expandArgs", "expandArgsFromStorage"]]

/-- The call that a value denotes. -/
def ofJson? (j : Json) : Option Call := do
  match ← slots? fields j with
  | [output, function, args, expandArgs] =>
    return {
      output := ← optional Json.text? output
      function := ← required Json.text? function
      args := ← defaulted [] (Json.items? some) args
      expandArgs := ← defaulted true Json.bool? expandArgs }
  | _ => none

/-- The canonical form of a call. -/
def toJson (c : Call) : Json := .record [
  ("outputVariable", c.output.map .text),
  ("function", some (.text c.function)),
  ("args", some (.array c.args)),
  ("expandArgs", some (.bool c.expandArgs))]

end Call

namespace Fetch

/-- The names of the fields of a request directive. -/
def fields : List (List String) :=
  [["outputVariable", "var"], ["url"], ["method"], ["headers"], ["body"], ["expandUrl"],
    ["expandBody"], ["failNext", "apiFailLink"]]

/-- The request directive that a value denotes. -/
def ofJson? (j : Json) : Option Fetch := do
  match ← slots? fields j with
  | [output, url, method, headers, body, expandUrl, expandBody, failNext] =>
    return {
      output := ← optional Json.text? output
      url := ← required Json.text? url
      method := ← defaulted .get Method.ofJson? method
      headers := ← defaulted [] (Json.keyed? Json.text?) headers
      body := ← optional some body
      expandUrl := ← defaulted true Json.bool? expandUrl
      expandBody := ← defaulted true Json.bool? expandBody
      failNext := ← optional Json.text? failNext }
  | _ => none

/-- The canonical form of a request directive. -/
def toJson (f : Fetch) : Json := .record [
  ("outputVariable", f.output.map .text),
  ("url", some (.text f.url)),
  ("method", some (.text f.method.name)),
  ("headers", if f.headers.isEmpty then none else some (.texts f.headers)),
  ("body", f.body),
  ("expandUrl", some (.bool f.expandUrl)),
  ("expandBody", some (.bool f.expandBody)),
  ("failNext", f.failNext.map .text)]

end Fetch

namespace Step

/-- The names of the fields of a branch. -/
def branchFields : List (List String) := [["variable", "var", "name"], ["cases"], ["default"]]

/-- The names of the fields of a step. -/
def fields : List (List String) :=
  [["message", "msg"], ["links"], ["next"], ["input"], ["execute"], ["request"], ["switch"],
    ["delay"], ["clearVariables"]]

/-- The branch that a value denotes, given how its steps are read. -/
def branchOfJson? (readStep : Json → Option Step) (j : Json) : Option (Branch Step) := do
  match ← slots? branchFields j with
  | [subject, cases, fallback] =>
    return {
      subject := ← required Json.text? subject
      cases := ← defaulted [] (Json.keyed? readStep) cases
      fallback := ← optional readStep fallback }
  | _ => none

/-- The step that a value denotes; steps nest less than `fuel` deep in it. -/
def read? : Nat → Json → Option Step
  | 0, _ => none
  | fuel + 1, j => do
    match ← slots? fields j with
    | [message, links, next, input, execute, request, switch, delay, clearVariables] =>
      return {
        message := ← optional Message.ofJson? message
        links := ← optional (Json.keyed? Json.text?) links
        next := ← optional Json.text? next
        input := ← optional Input.ofJson? input
        execute := ← optional Call.ofJson? execute
        request := ← optional Fetch.ofJson? request
        switch := ← optional (branchOfJson? (read? fuel)) switch
        delay := ← optional Json.real? delay
        clearVariables := ← optional Json.bool? clearVariables }
    | _ => none

/-- The step that a value denotes. -/
def ofJson? (j : Json) : Option Step := read? (j.depth + 1) j

mutual

/-- The canonical form of a step. -/
def toJson : Step → Json
  | ⟨message, links, next, input, execute, request, switch, delay, clearVariables⟩ => .record [
    ("message", message.map Message.toJson),
    ("links", links.map .texts),
    ("next", next.map .text),
    ("input", input.map Input.toJson),
    ("execute", execute.map Call.toJson),
    ("request", request.map Fetch.toJson),
    ("switch",
      match switch with
      | none => none
      | some ⟨subject, cases, fallback⟩ => some (.record [
        ("variable", some (.text subject)),
        ("cases", some (.object (casesToJson cases))),
        ("default",
          match fallback with
          | none => none
          | some step => some (toJson step))])),
    ("delay", delay.map .real),
    ("clearVariables", clearVariables.map .bool)]

/-- The canonical forms of the steps of a branch. -/
def casesToJson : List (String × Step) → List (String × Json)
  | [] => []
  | (key, step) :: rest => (key, toJson step) :: casesToJson rest

end

end Step

end Dialogue
