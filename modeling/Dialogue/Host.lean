import Dialogue.ForEach
import Dialogue.Request
import Dialogue.Text.Quoted
/-!
# The host of a conversation

A conversation calls functions and sends requests through its host. The host has a state of its own,
which every call may change.

## Main definitions

- `Function`, `Functions`, `Functions.standard` — functions and dictionaries of them
- `Host` — the functions, and what a request gives
-/

namespace Dialogue

/-- A function of the host: from the arguments, a value to store, nothing, or the reason of a
failure. -/
abbrev Function (σ : Type) := List Json → σ → Except String (Option Json) × σ

/-- Functions by name. -/
abbrev Functions (σ : Type) := Keyed (Function σ)

namespace Functions

variable {σ : Type}

/-- The functions that every host may offer. -/
def standard : Functions σ :=
  [("forEach", fun args world => ((forEach args).map some, world))]

/-- A dictionary in one line, by its names. -/
def describe (functions : Functions σ) : String :=
  "FunctionDictionary \x7b functions: [" ++
    String.intercalate ", " (functions.keys.map quotedText) ++ "] \x7d"

end Functions

/-- What a conversation needs from outside. -/
structure Host (σ : Type) where
  functions : Functions σ
  /-- The text of the response, or the reason of a failure. -/
  send : Request → σ → Except String String × σ

end Dialogue
