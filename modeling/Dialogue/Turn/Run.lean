import Dialogue.Turn.Directive
/-!
# Running turns

A turn runs until its directives are done, one of them ends it or fails, or one of them has to wait.
What is left to do then is a row of directives.

## Main definitions

- `Progress`, `Turn.run` — running a row of directives
- `Prompt`, `Turn.playOut` — a whole turn with the user's answers known beforehand
-/

namespace Dialogue

/-- How far a turn has come. -/
inductive Progress where
  | done (fault : Option Fault)
  /-- The user has to be waited for; the directive that asked is the first one left. -/
  | asking (left : List Directive)
  /-- A while has to pass. -/
  | resting (d : Duration) (left : List Directive)
  deriving DecidableEq, Repr, Inhabited

/-- The answers of a user who is known beforehand, and the time that has passed. -/
structure Prompt where
  /-- Each an answer, or nothing for a user who is idle; with none left, the turn is aborted. -/
  answers : List (Option String)
  /-- Whether the conversation is being paused. -/
  cancelled : Bool := false
  elapsed : Nat := 0
  deriving DecidableEq, Repr, Inhabited

namespace Prompt

/-- The next answer, or why there is none. -/
def take (prompt : Prompt) : Except Interruption String × Prompt :=
  match prompt.answers with
  | [] => (.error .aborted, prompt)
  | some text :: rest => (.ok text, { prompt with answers := rest })
  | none :: rest => (.error .idle, { prompt with answers := rest })

/-- Let a while pass, unless the conversation is being paused. -/
def sleep (prompt : Prompt) (d : Duration) : Option Interruption × Prompt :=
  if prompt.cancelled then (some .aborted, prompt)
  else (none, { prompt with elapsed := prompt.elapsed + d.wait })

end Prompt

namespace Turn

variable {σ : Type}

/-- Carry out directives until one has to wait or the turn is over. -/
def run (host : Host σ) : List Directive → Turn → Scene σ → Progress × Turn × Scene σ
  | [], turn, scene => (.done none, turn, scene)
  | directive :: rest, turn, scene =>
    match directive.run host turn scene with
    | (.proceed, turn, scene) => run host rest turn scene
    | (.halt, turn, scene) => (.done none, turn, scene)
    | (.fail fault, turn, scene) => (.done (some fault), turn, scene)
    | (.ask, turn, scene) => (.asking (directive :: rest), turn, scene)
    | (.rest d, turn, scene) => (.resting d rest, turn, scene)

/-- The answer of the user, taken from a prompt unless it is there already. -/
def ask (turn : Turn) (prompt : Prompt) : Except Interruption String × Turn × Prompt :=
  match turn.reply with
  | .text input => (.ok input, turn, prompt)
  | .interrupted reason => (.error reason, turn, prompt)
  | .pending =>
    match prompt.take with
    | (.ok input, prompt) => (.ok input, turn.request.receive input, prompt)
    | (.error reason, prompt) => (.error reason, turn.request.interrupt reason, prompt)

/-- What a whole turn gives. -/
structure Outcome (σ : Type) where
  fault : Option Fault
  turn : Turn
  scene : Scene σ
  prompt : Prompt

/-- Run a turn to its end; `waits` bounds how often it may wait. -/
def playOutFrom (host : Host σ) : Nat → List Directive → Turn → Scene σ → Prompt → Outcome σ
  | 0, _, turn, scene, prompt => ⟨none, turn, scene, prompt⟩
  | waits + 1, directives, turn, scene, prompt =>
    match turn.run host directives scene with
    | (.done fault, turn, scene) => ⟨fault, turn, scene, prompt⟩
    | (.asking left, turn, scene) =>
      let (_, turn, prompt) := turn.ask prompt
      playOutFrom host waits left turn scene prompt
    | (.resting d left, turn, scene) =>
      match prompt.sleep d with
      | (none, prompt) => playOutFrom host waits left turn scene prompt
      | (some reason, prompt) => ⟨none, turn.interrupt reason, scene, prompt⟩

/-- Run a turn to its end: it asks at most once, and waits at most once for every directive. -/
def playOut (host : Host σ) (directives : List Directive) (turn : Turn) (scene : Scene σ)
    (prompt : Prompt) : Outcome σ :=
  playOutFrom host (directives.length + 2) directives turn scene prompt

end Turn

end Dialogue
