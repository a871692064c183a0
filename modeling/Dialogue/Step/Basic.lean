import Dialogue.Request
/-!
# Steps

A step is a set of directives, all optional; a step with none is passed through. A branch holds
steps of its own, which are laid over the step that holds the branch.

## Main definitions

- `Message`, `InputKind`, `Input`, `Call`, `Fetch`, `Branch` — the directives
- `Step`, `Step.onto` — a step, and one step laid over another
- `Step.awaitsInput` — whether running the step may wait for the user
-/

namespace Dialogue

/-- What a step says: one text, or fragments of one. -/
inductive Message where
  | whole (text : String)
  | fragments (parts : List String)
  deriving DecidableEq, Repr, Inhabited

/-- The text of a message. -/
def Message.text : Message → String
  | .whole text => text
  | .fragments parts => String.join parts

/-- How an input directive gets its value: a text from the user, one of several keys from the user,
or a fixed value without the user. -/
inductive InputKind where
  | text
  | choice
  | set
  deriving DecidableEq, Repr, Inhabited

/-- An input directive. -/
structure Input where
  kind : InputKind
  /-- The path that receives the value. -/
  variablePath : Option String := none
  /-- The pattern a text has to match. -/
  pattern : Option String := none
  /-- The keys to choose from, each with the value it stores. -/
  choices : Option (Keyed Json) := none
  /-- The fixed value. -/
  value : Json := .null
  rejectMessage : Option String := none
  /-- Whether placeholders in the value are replaced before it is stored. -/
  expandValue : Bool := false
  deriving BEq, Repr, Inhabited

/-- A call of a function of the host. -/
structure Call where
  /-- The path that receives the result. -/
  output : Option String := none
  function : String
  args : List Json := []
  /-- Whether an argument that is one placeholder stands for the stored value. -/
  expandArgs : Bool := true
  deriving BEq, Repr, Inhabited

/-- A request with its placeholders still in place. -/
structure Fetch where
  /-- The path that receives the response. -/
  output : Option String := none
  url : String
  method : Method := .get
  headers : Keyed String := []
  body : Option Json := none
  expandUrl : Bool := true
  expandBody : Bool := true
  /-- Where to go when the request fails. -/
  failNext : Option String := none
  deriving BEq, Repr, Inhabited

/-- A choice among steps by the text of a stored value. -/
structure Branch (σ : Type) where
  /-- The path of the value that decides. -/
  subject : String
  cases : List (String × σ)
  fallback : Option σ
  deriving BEq, Repr, Inhabited

/-- A step of a conversation. -/
structure Step where
  message : Option Message := none
  /-- What the user may answer, each answer with its target. -/
  links : Option (Keyed String) := none
  /-- The target once the step is complete. -/
  next : Option String := none
  input : Option Input := none
  execute : Option Call := none
  request : Option Fetch := none
  switch : Option (Branch Step) := none
  /-- The seconds to wait. -/
  delay : Option Binary64 := none
  /-- Whether to drop all variables. -/
  clearVariables : Option Bool := none
  deriving BEq, Repr, Inhabited

namespace Step

/-- Lay a step over another: its directives win, the other directives stay, and no branch is
left. -/
def onto (upper lower : Step) : Step where
  message := upper.message.or lower.message
  links := upper.links.or lower.links
  next := upper.next.or lower.next
  input := upper.input.or lower.input
  execute := upper.execute.or lower.execute
  request := upper.request.or lower.request
  switch := none
  delay := upper.delay.or lower.delay
  clearVariables := upper.clearVariables.or lower.clearVariables

/-- Whether the step waits for the user whatever its branch does. -/
def asksItself (links : Option (Keyed String)) (input : Option Input) : Bool :=
  links.isSome || (input.map (·.kind != .set)).getD false

mutual

/-- Whether running the step may wait for the user. -/
def awaitsInput : Step → Bool
  | ⟨_, links, _, input, _, _, switch, _, _⟩ =>
    asksItself links input ||
      match switch with
      | none => false
      | some ⟨_, cases, fallback⟩ =>
        anyAwaitsInput cases ||
          match fallback with
          | none => false
          | some step => awaitsInput step

/-- Whether running one of the steps may wait for the user. -/
def anyAwaitsInput : List (String × Step) → Bool
  | [] => false
  | (_, step) :: rest => awaitsInput step || anyAwaitsInput rest

end

end Step

end Dialogue
