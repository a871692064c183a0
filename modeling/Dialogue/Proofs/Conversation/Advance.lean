import Dialogue.Proofs.Conversation.Basic
import Dialogue.Proofs.Turn.Run
/-!
# Small steps as a relation

What the loop of a conversation may do next, one rule for each exit of a small step. Where several
things are ready at once (the loop has been told to end, an input is there, a deadline has passed),
the relation allows each of them; `Conversation.advance?` takes one. A step that completes a turn
carries the turn as its label.

## Main definitions

- `Conversation.Resumes` — the loop takes up a turn
- `Conversation.Advances` — one small step

## Main statements

- `Conversation.advances_of_advance?` — the next small step is one that the relation allows
-/

namespace Dialogue

/-- Whether the step at a location is one that may wait for the user. -/
def Script.mayAsk {σ : Type} (script : Script σ) (location : Location) : Bool :=
  (script.document.step? location).any Step.awaitsInput

/-- The turn that a phase holds. -/
def Phase.suspended? : Phase → Option Suspended
  | .asking turn _ => some turn
  | .resting turn _ => some turn
  | _ => none

namespace Phase

variable {phase : Phase} {turn : Suspended}

theorem suspended?_of_asking {deadline : Option Nat} (h : phase = .asking turn deadline) :
    phase.suspended? = some turn := by
  rw [h, suspended?]

theorem suspended?_of_resting {time : Nat} (h : phase = .resting turn time) :
    phase.suspended? = some turn := by
  rw [h, suspended?]

end Phase

namespace Conversation

variable {σ : Type} {script : Script σ} {clock : Nat}

/-- The turn of the current step as it begins. -/
def opening (script : Script σ) (c : Conversation σ) (step : Step) (location : Location) :
    Suspended where
  turn := .ofStep step location (script.document.following? (some location))
  left := script.directives
  before := if script.settings.recordPatches then some c.store.own else none

/-- The loop takes up a turn: `turn` is about to be carried on in the third conversation. -/
inductive Resumes (script : Script σ) (clock : Nat) :
    Conversation σ → Suspended → Conversation σ → Prop where
  | begin {c : Conversation σ} {location : Location} {step : Step} (hphase : c.phase = .ready)
      (hcancelled : c.cancelled = false) (hhead : c.head = some location)
      (hstep : script.document.step? location = some step)
      (hfall : c.inFreefall script step = false) :
      Resumes script clock c (c.opening script step location) c
  | answer {c : Conversation σ} {turn : Suspended} {deadline : Option Nat} {text : String}
      {rest : List String} (hphase : c.phase = .asking turn deadline)
      (hqueue : c.queue = text :: rest) :
      Resumes script clock c { turn with turn := turn.turn.receive text }
        ({ c with queue := rest }.received script text)
  | wake {c : Conversation σ} {turn : Suspended} {time : Nat} (hphase : c.phase = .resting turn time)
      (htime : time ≤ clock) : Resumes script clock c turn c

/-- One small step, labelled with the turn that it completes. -/
inductive Advances (script : Script σ) (clock : Nat) :
    Conversation σ → Option Turn → Conversation σ → Prop where
  | stop {c : Conversation σ} (hphase : c.phase = .ready ∨ c.phase = .entering)
      (hcancelled : c.cancelled) : Advances script clock c none c.endLoop
  | wait {c : Conversation σ} (hphase : c.phase = .ready) (hcancelled : c.cancelled = false)
      (hhead : c.head = none) :
      Advances script clock c none { c.suspend .waitingInput with phase := .entering }
  | lost {c : Conversation σ} {location : Location} (hphase : c.phase = .ready)
      (hcancelled : c.cancelled = false) (hhead : c.head = some location)
      (hstep : script.document.step? location = none) :
      Advances script clock c none ((c.report (.navigation none location.text)).place none)
  | freefall {c : Conversation σ} {location : Location} {step : Step} (hphase : c.phase = .ready)
      (hcancelled : c.cancelled = false) (hhead : c.head = some location)
      (hstep : script.document.step? location = some step) (hfall : c.inFreefall script step) :
      Advances script clock c none (({ c with freeSteps := 0 }.report
        (.freefall script.settings.freefallLimit (some location))).place none)
  | enter {c : Conversation σ} {text : String} {rest : List String} (hphase : c.phase = .entering)
      (hqueue : c.queue = text :: rest) :
      Advances script clock c none (({ c with queue := rest }.received script text).enter script text)
  | idle {c : Conversation σ} {turn : Suspended} {deadline : Nat}
      (hphase : c.phase = .asking turn (some deadline)) (hdeadline : deadline ≤ clock) :
      Advances script clock c none (c.goIdle script turn)
  | abandon {c : Conversation σ} {turn : Suspended} (hphase : c.phase.suspended? = some turn)
      (hcancelled : c.cancelled) :
      Advances script clock c none (Conversation.abandon script turn .aborted c)
  | complete {c d : Conversation σ} {turn : Suspended} {fault : Option Fault} {after : Turn}
      {scene : Scene σ} (h : Resumes script clock c turn d)
      (hrun : turn.turn.run script.host turn.left { store := d.store, world := d.world } =
        (.done fault, after, scene)) :
      Advances script clock c (some after)
        ((d.absorb script scene).finish script turn.before after fault)
  | ask {c d : Conversation σ} {turn : Suspended} {left : List Directive} {after : Turn}
      {scene : Scene σ} (h : Resumes script clock c turn d)
      (hrun : turn.turn.run script.host turn.left { store := d.store, world := d.world } =
        (.asking left, after, scene)) :
      Advances script clock c none
        ((d.absorb script scene).ask script clock ⟨after, left, turn.before⟩)
  | rest {c d : Conversation σ} {turn : Suspended} {duration : Duration} {left : List Directive}
      {after : Turn} {scene : Scene σ} (h : Resumes script clock c turn d)
      (hrun : turn.turn.run script.host turn.left { store := d.store, world := d.world } =
        (.resting duration left, after, scene)) :
      Advances script clock c none { d.absorb script scene with
        phase := .resting ⟨after, left, turn.before⟩ (clock + duration.wait) }

/-- A turn that is taken up is carried on by one of the last three rules. -/
theorem Resumes.advances {c d : Conversation σ} {turn : Suspended}
    (h : Resumes script clock c turn d) :
    ∃ label, Advances script clock c label
      (d.carryOn script clock turn.before turn.left turn.turn) := by
  unfold carryOn
  split
  rename_i progress after scene hrun
  cases progress with
  | done fault => exact ⟨_, .complete h hrun⟩
  | asking left => exact ⟨_, .ask h hrun⟩
  | resting duration left => exact ⟨_, .rest h hrun⟩

/-- Beginning the current step is allowed. -/
theorem advances_beginStep {c : Conversation σ} {location : Location} (hphase : c.phase = .ready)
    (hcancelled : c.cancelled = false) (hhead : c.head = some location) :
    ∃ label, Advances script clock c label (c.beginStep script clock location) := by
  unfold beginStep
  cases hstep : script.document.step? location with
  | none => exact ⟨_, .lost hphase hcancelled hhead hstep⟩
  | some step =>
    dsimp only
    cases hfall : c.inFreefall script step with
    | true => exact ⟨_, .freefall hphase hcancelled hhead hstep hfall⟩
    | false => exact (Resumes.begin hphase hcancelled hhead hstep hfall).advances

/-- **The next small step is one of those that are allowed.** -/
theorem advances_of_advance? {c c' : Conversation σ} (h : c.advance? script clock = some c') :
    ∃ label, Advances script clock c label c' := by
  unfold advance? at h
  split at h
  · simp at h
  · simp at h
  · next hphase =>
    split at h
    · next hcancelled =>
      obtain rfl := Option.some.inj h
      exact ⟨_, .stop (.inl hphase) hcancelled⟩
    · next hcancelled =>
      have hrunning : c.cancelled = false := by simpa using hcancelled
      split at h <;> obtain rfl := Option.some.inj h
      · next hhead => exact ⟨_, .wait hphase hrunning hhead⟩
      · next location hhead => exact advances_beginStep hphase hrunning hhead
  · next hphase =>
    split at h
    · next hcancelled =>
      obtain rfl := Option.some.inj h
      exact ⟨_, .stop (.inr hphase) hcancelled⟩
    · split at h
      · simp at h
      · next text rest hqueue =>
        obtain rfl := Option.some.inj h
        exact ⟨_, .enter hphase hqueue⟩
  · next turn deadline hphase =>
    have hturn : c.phase.suspended? = some turn := Phase.suspended?_of_asking hphase
    split at h
    · next hcancelled =>
      obtain rfl := Option.some.inj h
      exact ⟨_, .abandon hturn hcancelled⟩
    · split at h
      · next text rest hqueue =>
        obtain rfl := Option.some.inj h
        exact (Resumes.answer hphase hqueue).advances
      · split at h
        · next hdeadline =>
          obtain rfl := Option.some.inj h
          exact ⟨_, .idle hphase hdeadline⟩
        · simp at h
      · simp at h
  · next turn time hphase =>
    have hturn : c.phase.suspended? = some turn := Phase.suspended?_of_resting hphase
    split at h
    · next hcancelled =>
      obtain rfl := Option.some.inj h
      exact ⟨_, .abandon hturn hcancelled⟩
    · split at h
      · next htime =>
        obtain rfl := Option.some.inj h
        exact (Resumes.wake hphase htime).advances
      · simp at h

end Conversation

end Dialogue
