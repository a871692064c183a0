import Dialogue.Proofs.Turn.Cases
import Dialogue.Turn.Run
/-!
# What running directives leaves alone

A directive may change the step of its turn, where the turn leads to and what it holds of the user's
answer. It never moves the turn to another location and never interrupts it, and it marks the turn
as asked exactly when it asks.

## Main definitions

- `Directive.Keeps` — what every directive leaves alone
- `Progress.asks`, `Progress.left` — whether a row of directives waits for the user, and what of it
  is left

## Main statements

- `Directive.run_keeps`, `Turn.run_keeps` — one directive, and a row of them
- `Turn.left_run_suffix`, `Turn.left_run_lt` — what is left of a row when it waits, and that it is
  shorter after a while
-/

namespace Dialogue

variable {σ : Type}

namespace Directive

/-- What a directive leaves alone in its turn. -/
structure Keeps (turn : Turn) (r : Result σ) : Prop where
  location : r.2.1.location = turn.location
  interrupted : r.2.1.interrupted = turn.interrupted
  input : r.2.1.input = turn.input
  inputRequested : r.2.1.inputRequested = (turn.inputRequested || r.1 == .ask)

variable {turn : Turn} {scene : Scene σ}

theorem keeps_proceed {turn' : Turn} (hlocation : turn'.location = turn.location)
    (hinterrupted : turn'.interrupted = turn.interrupted) (hinput : turn'.input = turn.input)
    (hrequested : turn'.inputRequested = turn.inputRequested) :
    Keeps turn (proceed turn' scene) :=
  ⟨hlocation, hinterrupted, hinput, by rw [proceed, hrequested]; exact (Bool.or_false _).symm⟩

theorem keeps_refl : Keeps turn (proceed turn scene) := keeps_proceed rfl rfl rfl rfl

theorem keeps_fail (fault : Fault) : Keeps turn (fail fault turn scene) :=
  ⟨rfl, rfl, rfl, (Bool.or_false _).symm⟩

theorem keeps_goTo (target : String) : Keeps turn (goTo target turn scene) := by
  unfold goTo
  split
  · exact keeps_proceed rfl rfl rfl rfl
  · exact keeps_fail _

theorem keeps_withInput {use : String → Result σ} (h : ∀ text, Keeps turn (use text)) :
    Keeps turn (withInput turn scene use) :=
  withInput_cases (fun text _ => h text) ⟨rfl, rfl, rfl, (Bool.or_false _).symm⟩
    ⟨rfl, rfl, rfl, (Bool.or_true _).symm⟩

/-- **What a directive leaves alone**, whatever it does. -/
theorem Does.keeps {host : Host σ} {directive : Directive} {r : Result σ}
    (h : Does host turn scene directive r) : Keeps turn r := by
  cases h with
  | switch => exact keeps_proceed rfl rfl rfl rfl
  | next | diverted => exact keeps_goTo _
  | unnamed | unlisted | unreadable | uncountable => exact keeps_fail _
  | choice =>
    refine keeps_withInput fun text => ?_
    split <;> exact keeps_proceed rfl rfl rfl rfl
  | text =>
    refine keeps_withInput fun text => ?_
    split <;> exact keeps_proceed rfl rfl rfl rfl
  | links =>
    refine keeps_withInput fun text => ?_
    split
    · exact keeps_goTo _
    · exact keeps_proceed rfl rfl rfl rfl
  | rest => exact ⟨rfl, rfl, rfl, (Bool.or_false _).symm⟩
  | _ => exact keeps_refl

/-- What every directive leaves alone. -/
theorem run_keeps (host : Host σ) (directive : Directive) (turn : Turn) (scene : Scene σ) :
    Keeps turn (directive.run host turn scene) :=
  (run_does host directive turn scene).keeps

end Directive

namespace Progress

/-- Whether the user has to be waited for. -/
def asks : Progress → Bool
  | .asking _ => true
  | _ => false

/-- The directives that are left. -/
def left : Progress → List Directive
  | .done _ => []
  | .asking left => left
  | .resting _ left => left

end Progress

namespace Turn

/-- What a row of directives leaves alone in its turn. -/
structure Keeps (turn : Turn) (r : Progress × Turn × Scene σ) : Prop where
  location : r.2.1.location = turn.location
  interrupted : r.2.1.interrupted = turn.interrupted
  input : r.2.1.input = turn.input
  inputRequested : r.2.1.inputRequested = (turn.inputRequested || r.1.asks)

/-- What every row of directives leaves alone. -/
theorem run_keeps (host : Host σ) (left : List Directive) (turn : Turn) (scene : Scene σ) :
    Keeps turn (turn.run host left scene) := by
  induction left generalizing turn scene with
  | nil => exact ⟨rfl, rfl, rfl, (Bool.or_false _).symm⟩
  | cons directive rest ih =>
    obtain ⟨hlocation, hinterrupted, hinput, hrequested⟩ := directive.run_keeps host turn scene
    rw [run]
    split <;> rename_i h <;> rw [h] at hlocation hinterrupted hinput hrequested
    · -- Only here is there more to run, and it starts from what is left alone so far.
      rename_i middle after
      obtain ⟨hlocation', hinterrupted', hinput', hrequested'⟩ := ih middle after
      refine ⟨hlocation'.trans hlocation, hinterrupted'.trans hinterrupted,
        hinput'.trans hinput, ?_⟩
      have hmiddle : middle.inputRequested = turn.inputRequested :=
        hrequested.trans (Bool.or_false _)
      rw [hrequested', hmiddle]
    all_goals exact ⟨hlocation, hinterrupted, hinput, hrequested⟩

/-- What is left of a row of directives is an end of the row. -/
theorem left_run_suffix (host : Host σ) (left : List Directive) (turn : Turn) (scene : Scene σ) :
    (turn.run host left scene).1.left <:+ left := by
  induction left generalizing turn scene with
  | nil => exact List.suffix_refl []
  | cons directive rest ih =>
    rw [run]
    split
    · exact (ih _ _).trans (List.suffix_cons directive rest)
    · exact List.nil_suffix
    · exact List.nil_suffix
    · exact List.suffix_refl _
    · exact List.suffix_cons directive rest

/-- What is left of a row of directives is not longer than the row. -/
theorem left_run_le (host : Host σ) (left : List Directive) (turn : Turn) (scene : Scene σ) :
    (turn.run host left scene).1.left.length ≤ left.length :=
  (left_run_suffix host left turn scene).length_le

/-- What is left after a directive that waits for a while is shorter than the row. -/
theorem left_run_lt {host : Host σ} {left : List Directive} {turn : Turn} {scene : Scene σ}
    {d : Duration} {left' : List Directive} (h : (turn.run host left scene).1 = .resting d left') :
    left'.length < left.length := by
  induction left generalizing turn scene with
  | nil => simp [run] at h
  | cons directive rest ih =>
    rw [run] at h
    split at h
    · have hrest := ih h
      rw [List.length_cons]
      omega
    · simp at h
    · simp at h
    · simp at h
    · obtain ⟨-, rfl⟩ := Progress.resting.inj h
      simp

end Turn

end Dialogue
