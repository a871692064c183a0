import Dialogue.Proofs.Conversation.Reachable
import Dialogue.Proofs.Turn.Unasked
/-!
# What the guard against freefall may cut off

After too many steps in a row without a wait, a conversation cuts off a step that does not await an
input. Such a step never asks the user, whatever its directives, their order, the variables and the
branches that are taken: so only steps are cut off that would not have waited.

## Main statements

- `Conversation.Reachable.unasked` — a turn that rests at such a step has not asked
- `Conversation.never_asks`
-/

namespace Dialogue

variable {σ : Type} {script : Script σ}

namespace Conversation

/-- A turn that waits at a step that never asks has not asked. -/
theorem Reachable.unasked {c : Conversation σ} (hc : Reachable script c) {waiting : Suspended}
    (hwaiting : c.phase.suspended? = some waiting)
    (hstep : script.mayAsk waiting.turn.location = false) : waiting.turn.Unasked := by
  induction hc generalizing waiting with
  | initial store world => cases hwaiting
  | @loop c c' clock label hc h ih =>
    rcases h.suspended hc.sound hwaiting with hbefore | ⟨d, turn, progress, scene, hresumes, hrun, -⟩
    · exact ih hbefore hstep
    · -- The turn was carried on: it began just now, or it was unasked before.
      have hlocation := (Turn.run_keeps script.host turn.left turn.turn
        { store := d.store, world := d.world }).location
      rw [hrun] at hlocation
      rw [hlocation] at hstep
      suffices hturn : turn.turn.Unasked by
        have hafter := (Turn.run_unasked script.host turn.left hturn
          { store := d.store, world := d.world }).2
        rwa [hrun] at hafter
      cases hresumes with
      | @begin location step hphase hcancelled hhead hfound hfall =>
        refine ⟨?_, rfl, rfl⟩
        rwa [Script.mayAsk, show (c.opening script step location).turn.location = location from rfl,
          hfound] at hstep
      | @answer turn deadline text rest hphase hqueue =>
        have hunasked := ih (Phase.suspended?_of_asking hphase) hstep
        have hasked := hc.sound.requested turn deadline hphase
        rw [hunasked.inputRequested] at hasked
        cases hasked
      | wake hphase htime => exact ih (Phase.suspended?_of_resting hphase) hstep
  | call _ h ih => exact ih (h.suspended hwaiting).1 hstep
  | write _ h ih =>
    obtain ⟨store, rfl⟩ := setVariable_eq h
    exact ih hwaiting hstep

/-- **A step that does not await an input never asks.** Whatever the directives and their order, the
variables, the host and the branches that are taken: however a turn of the step is played, the prompt
is not consulted and nothing reads the answer, and playing it out takes no answer from a prompt. No
conversation ever waits for an answer at such a step, which is all that the guard against freefall
cuts off. -/
theorem never_asks {step : Step} (h : step.awaitsInput = false) (host : Host σ)
    (directives : List Directive) (location : Location) (nextLink : Option Location)
    (scene : Scene σ) :
    (∀ acts ending,
      Turn.Plays host directives (.ofStep step location nextLink) scene acts ending →
        Act.consulted acts = [] ∧ (∀ act ∈ acts, ¬ act.Reads host) ∧
          ending.2.1.inputRequested = false ∧ ending.2.1.input = none) ∧
    (∀ prompt, let out := (Turn.ofStep step location nextLink).playOut host directives scene prompt
      out.prompt.answers = prompt.answers ∧ out.turn.inputRequested = false ∧
        out.turn.input = none) ∧
    ∀ (script : Script σ) (c : Conversation σ), Reachable script c → ∀ turn deadline,
      c.phase = .asking turn deadline → script.document.step? turn.turn.location ≠ some step := by
  have hturn : (Turn.ofStep step location nextLink).Unasked := ⟨h, rfl, rfl⟩
  refine ⟨fun acts ending hplays => ?_, fun prompt => ?_,
    fun script c hc turn deadline hphase hstep => ?_⟩
  · obtain ⟨hacts, hending⟩ := hplays.unasked hturn
    exact ⟨List.flatMap_eq_nil_iff.2 fun act hact => (hacts act hact).1,
      fun act hact => (hacts act hact).2, hending.inputRequested, hending.input⟩
  · obtain ⟨hanswers, hafter⟩ := Turn.playOut_unasked host directives hturn scene prompt
    exact ⟨hanswers, hafter.inputRequested, hafter.input⟩
  · have hmay : script.mayAsk turn.turn.location = false := by
      rw [Script.mayAsk, hstep]
      exact h
    have hasked := hc.sound.requested turn deadline hphase
    rw [(hc.unasked (Phase.suspended?_of_asking hphase) hmay).inputRequested] at hasked
    cases hasked

/-- A step that opens a door and goes through it, with branches inside its branches. -/
def hallway : Step where
  message := some (.whole "Come in")
  input := some { kind := .set, variablePath := some "door", value := .text "open" }
  switch := some {
    subject := "door"
    cases := [("open", {
      next := some "/hall"
      switch := some { subject := "door", cases := [("shut", {})], fallback := none } })]
    fallback := some { clearVariables := some true } }

/-- The door is opened before the branch is taken, while a user stands by. -/
def hallwayOutcome : Turn.Outcome Unit :=
  (Turn.ofStep hallway (.start "/start") none).playOut Turn.silentHost
    [.input, .links, .switch, .switch, .input, .links, .message, .next]
    { store := .empty, world := () } { answers := [some "hello"] }

theorem never_asks_hallway :
    hallway.awaitsInput = false ∧ hallwayOutcome.turn.nextLink = some (.start "/hall") ∧
      hallwayOutcome.prompt.answers = [some "hello"] ∧
      hallwayOutcome.turn.inputRequested = false := by
  have hquiet : hallway.awaitsInput = false := by decide
  obtain ⟨-, hplayed, -⟩ := never_asks hquiet Turn.silentHost
    [.input, .links, .switch, .switch, .input, .links, .message, .next] (.start "/start") none
    { store := .empty, world := () }
  obtain ⟨hanswers, hrequested, -⟩ := hplayed { answers := [some "hello"] }
  exact ⟨hquiet, by decide +kernel, hanswers, hrequested⟩

end Conversation

end Dialogue
