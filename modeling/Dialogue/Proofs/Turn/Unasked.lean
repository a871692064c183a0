import Dialogue.Proofs.Keyed
import Dialogue.Proofs.Turn.Play
import Dialogue.Proofs.Turn.Storing
/-!
# Steps that never ask

A step without links and without an input that waits, in which no branch has one either, leaves the
user alone: a branch that is taken is such a step again, and so is the branch laid over the step.
Whatever is carried out of it, in whatever order, the prompt is not consulted.

## Main definitions

- `Turn.Unasked` — the step never asks, and the user was not asked

## Main statements

- `Step.awaitsInput_onto`, `Directive.awaitsInput_run` — the step stays one that never asks
- `Directive.not_reads`, `Directive.run_ne_ask` — no directive of it reads the answer or asks
- `Turn.Plays.unasked`, `Turn.run_unasked` — a row of directives
-/

namespace Dialogue

variable {σ : Type}

namespace Step

/-- A step waits by itself unless it has no links and its input, if any, stores a fixed value. -/
theorem asksItself_eq_false {links : Option (Keyed String)} {input : Option Input} :
    asksItself links input = false ↔ links = none ∧ ∀ i ∈ input, i.kind = .set := by
  cases links <;> cases input <;> simp [asksItself]

theorem anyAwaitsInput_eq_false {cases : List (String × Step)} :
    anyAwaitsInput cases = false ↔ ∀ p ∈ cases, p.2.awaitsInput = false := by
  induction cases with
  | nil => simp [anyAwaitsInput]
  | cons p rest ih => simp [anyAwaitsInput, ih]

/-- A step never asks if it does not wait by itself and no branch of it is one that asks. -/
theorem awaitsInput_eq_false {step : Step} :
    step.awaitsInput = false ↔ asksItself step.links step.input = false ∧
      ∀ branch ∈ step.switch, (∀ p ∈ branch.cases, p.2.awaitsInput = false) ∧
        ∀ case ∈ branch.fallback, case.awaitsInput = false := by
  obtain ⟨_, _, _, _, _, _, switch, _, _⟩ := step
  cases switch with
  | none => simp [awaitsInput]
  | some branch =>
    obtain ⟨_, cases, fallback⟩ := branch
    cases fallback <;> simp [awaitsInput, anyAwaitsInput_eq_false]

variable {upper lower step : Step}

/-- A step that never asks, laid over another one. -/
theorem awaitsInput_onto (hupper : upper.awaitsInput = false) (hlower : lower.awaitsInput = false) :
    (upper.onto lower).awaitsInput = false := by
  obtain ⟨hlinks, hinput⟩ := asksItself_eq_false.1 (awaitsInput_eq_false.1 hupper).1
  obtain ⟨hlinks', hinput'⟩ := asksItself_eq_false.1 (awaitsInput_eq_false.1 hlower).1
  refine awaitsInput_eq_false.2 ⟨asksItself_eq_false.2 ⟨?_, fun i hi => ?_⟩, fun _ h => by cases h⟩
  · rw [onto, hlinks, hlinks']
    rfl
  · rcases Option.or_eq_some_iff.1 hi with hi | ⟨-, hi⟩
    · exact hinput i hi
    · exact hinput' i hi

/-- Whichever branch is taken, the step never asks. -/
theorem awaitsInput_branched (h : step.awaitsInput = false) (store : Store) :
    (Directive.branched store step).awaitsInput = false := by
  unfold Directive.branched
  split
  · exact h
  · next branch hbranch =>
    obtain ⟨hcases, hfallback⟩ := (awaitsInput_eq_false.1 h).2 branch hbranch
    split
    · next case hcase =>
      refine awaitsInput_onto ?_ h
      rcases Option.or_eq_some_iff.1 hcase with hcase | ⟨-, hcase⟩
      · exact hcases _ (Keyed.mem_of_get? hcase)
      · exact hfallback case hcase
    · exact awaitsInput_eq_false.2 ⟨(awaitsInput_eq_false.1 h).1, fun _ hnone => by cases hnone⟩

end Step

namespace Directive

variable {host : Host σ} {directive : Directive} {turn final : Turn} {scene : Scene σ}

/-- No directive makes a step ask that never does. -/
theorem awaitsInput_run (h : turn.step.awaitsInput = false) :
    (directive.run host turn scene).2.1.step.awaitsInput = false := by
  by_cases hswitch : directive = .switch
  · subst hswitch
    exact Step.awaitsInput_branched h scene.store
  · rw [(run_effect host turn scene hswitch).step]
    exact h

/-- **No directive of a step that never asks reads the answer.** -/
theorem not_reads (h : turn.step.awaitsInput = false) : ¬ Reads host directive turn scene := by
  obtain ⟨hlinks, hinput⟩ := Step.asksItself_eq_false.1 (Step.awaitsInput_eq_false.1 h).1
  have hlinks' : turn.unanswered.step.links = none := hlinks
  have hinput' : ∀ i ∈ turn.unanswered.step.input, i.kind = .set := hinput
  unfold Reads
  by_cases hdirective : directive = .input
  · subst hdirective
    rw [run]
    split
    · exact (by cases ·)
    · next input hsome =>
      split
      · exact (by cases ·)
      · split
        · exact (by cases ·)
        · rw [runInput, hinput' input hsome]
          exact (by cases ·)
  · by_cases hdirective' : directive = .links
    · subst hdirective'
      rw [run, hlinks']
      exact (by cases ·)
    · exact (goesOn_run host turn.unanswered scene hdirective hdirective').not_ask

/-- **No directive of a step that never asks asks.** -/
theorem run_ne_ask (h : turn.step.awaitsInput = false) : (directive.run host turn scene).1 ≠ .ask :=
  fun hask => not_reads h (run_ask (Prod.ext hask rfl)).2.1

end Directive

namespace Turn

open Directive Act

variable {host : Host σ} {directives : List Directive} {turn : Turn} {scene : Scene σ}
  {acts : List (Act σ)} {ending : Option Fault × Turn × Scene σ}

/-- A turn whose step never asks, while the user has not been asked. -/
structure Unasked (turn : Turn) : Prop where
  step : turn.step.awaitsInput = false
  inputRequested : turn.inputRequested = false
  input : turn.input = none

/-- One directive that gets through. -/
theorem Unasked.carries {directive : Directive} {answers : List (Except Interruption String)}
    {final turn' : Turn} {signal : Signal} {scene' : Scene σ} (hturn : turn.Unasked)
    (h : directive.Carries host turn scene answers final (signal, turn', scene')) :
    (∀ cut, ∀ act ∈ [(⟨directive, final, scene, answers, cut⟩ : Act σ)],
      act.answers = [] ∧ ¬ act.Reads host) ∧ turn'.Unasked := by
  have hask : (directive.run host turn scene).1 ≠ .ask := run_ne_ask hturn.step
  obtain ⟨rfl, rfl, hrun⟩ := h.eq_of_run hask
  have hkeeps := directive.run_keeps host final scene
  have hstep : (directive.run host final scene).2.1.step.awaitsInput = false :=
    awaitsInput_run hturn.step
  rw [hrun] at hask hkeeps hstep
  refine ⟨fun cut => List.forall_mem_singleton.2 ⟨rfl, not_reads hturn.step⟩, hstep, ?_,
    hkeeps.input.trans hturn.input⟩
  rw [hkeeps.inputRequested, hturn.inputRequested]
  simpa using hask

/-- **A row of directives**, however it is played. -/
theorem Plays.unasked (h : Plays host directives turn scene acts ending) (hturn : turn.Unasked) :
    (∀ act ∈ acts, act.answers = [] ∧ ¬ act.Reads host) ∧ ending.2.1.Unasked := by
  induction h with
  | done => exact ⟨List.forall_mem_nil _, hturn⟩
  | next h hsignal hrest ih =>
    obtain ⟨hact, hturn'⟩ := hturn.carries h
    obtain ⟨hacts, hending⟩ := ih hturn'
    exact ⟨List.forall_mem_cons.2 ⟨hact none _ (List.mem_singleton_self _), hacts⟩, hending⟩
  | halt h => exact ⟨(hturn.carries h).1 none, (hturn.carries h).2⟩
  | fail h => exact ⟨(hturn.carries h).1 none, (hturn.carries h).2⟩
  | cut h reason =>
    obtain ⟨hact, hstep, hrequested, hinput⟩ := hturn.carries h
    exact ⟨hact (some reason), hstep, hrequested, hinput⟩

/-- **A row of directives never stops to ask**, and what is left of it does not either. -/
theorem run_unasked (host : Host σ) (left : List Directive) (hturn : turn.Unasked)
    (scene : Scene σ) :
    (turn.run host left scene).1.asks = false ∧ (turn.run host left scene).2.1.Unasked := by
  induction left generalizing turn scene with
  | nil => exact ⟨rfl, hturn⟩
  | cons directive rest ih =>
    have hask : (directive.run host turn scene).1 ≠ .ask := run_ne_ask hturn.step
    obtain ⟨signal, turn', scene', hrun⟩ : ∃ signal turn' scene',
        directive.run host turn scene = (signal, turn', scene') := ⟨_, _, _, rfl⟩
    rw [hrun] at hask
    obtain ⟨-, hturn'⟩ := hturn.carries (.through hrun hask)
    rw [run, hrun]
    cases signal with
    | proceed => exact ih hturn' scene'
    | ask => exact absurd rfl hask
    | _ => exact ⟨rfl, hturn'⟩

/-- Playing a turn out takes nothing from the prompt. -/
theorem playOut_unasked (host : Host σ) (directives : List Directive) (hturn : turn.Unasked)
    (scene : Scene σ) (prompt : Prompt) :
    (turn.playOut host directives scene prompt).prompt.answers = prompt.answers ∧
      (turn.playOut host directives scene prompt).turn.Unasked := by
  obtain ⟨acts, hplays, htakes⟩ := playOut_plays host directives turn scene prompt
  obtain ⟨hacts, hending⟩ := hplays.unasked hturn
  have hquiet : consulted acts = [] := List.flatMap_eq_nil_iff.2 fun act hact => (hacts act hact).1
  refine ⟨?_, hending⟩
  rcases htakes with ⟨-, hsame⟩ | ⟨htaken, -⟩
  · exact hsame
  · cases hquiet.symm.trans htaken

end Turn

end Dialogue
