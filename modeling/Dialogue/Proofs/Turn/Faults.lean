import Dialogue.Proofs.Turn.Cases
import Dialogue.Turn.Run
/-!
# The faults of a turn

A turn reports what goes wrong with its directives, or fails because of it. That there is no step to
move to, and that too many steps ran without waiting, is never for a turn to say.

## Main definitions

- `Fault.isOfTurn` — the faults that a turn may report or fail with

## Main statements

- `Directive.run_blames`, `Turn.run_blames` — one directive, and a row of them
-/

namespace Dialogue

variable {σ : Type}

/-- Whether a turn may report the fault, or fail with it. -/
def Fault.isOfTurn : Fault → Bool
  | .navigation .. => false
  | .freefall .. => false
  | _ => true

/-- Every fault that is new in a scene is one of a turn. -/
def Scene.Blames (scene scene' : Scene σ) : Prop :=
  ∀ fault, .reported fault ∈ scene'.notices → .reported fault ∈ scene.notices ∨ fault.isOfTurn

namespace Scene

variable {scene scene' scene'' : Scene σ}

theorem Blames.of_notices (h : scene'.notices = scene.notices) : scene.Blames scene' :=
  fun _ hfault => .inl (h ▸ hfault)

theorem Blames.trans (h : scene.Blames scene') (h' : scene'.Blames scene'') :
    scene.Blames scene'' :=
  fun fault hfault => (h' fault hfault).elim (h fault) .inr

theorem blames_report (scene : Scene σ) {fault : Fault} (h : fault.isOfTurn) :
    scene.Blames (scene.report fault) := by
  intro other hother
  rcases Array.mem_push.1 hother with hother | hother
  · exact .inl hother
  · obtain rfl := Notice.reported.inj hother
    exact .inr h

theorem blames_print (scene : Scene σ) (text : String) : scene.Blames (scene.print text) := by
  intro fault hfault
  rcases Array.mem_push.1 hfault with hfault | hfault
  · exact .inl hfault
  · cases hfault

end Scene

namespace Directive

/-- What a directive reports and fails with is for a turn to say. -/
structure Blames (scene : Scene σ) (r : Result σ) : Prop where
  reports : scene.Blames r.2.2
  fails : ∀ fault, r.1 = .fail fault → fault.isOfTurn

variable {turn turn' : Turn} {scene scene' : Scene σ}

theorem blames_proceed (h : scene.Blames scene') : Blames scene (proceed turn scene') :=
  ⟨h, nofun⟩

/-- A directive that reports nothing. -/
theorem blames_silent (h : scene'.notices = scene.notices) : Blames scene (proceed turn scene') :=
  blames_proceed (.of_notices h)

theorem blames_fail {fault : Fault} (h : scene.Blames scene') (hfault : fault.isOfTurn) :
    Blames scene (fail fault turn scene') := by
  refine ⟨h, fun other hother => ?_⟩
  obtain rfl := Signal.fail.inj hother
  exact hfault

theorem blames_goTo (target : String) (h : scene.Blames scene') :
    Blames scene (goTo target turn scene') := by
  unfold goTo resolve Location.read
  cases Location.parse? (scene'.store.expand target) with
  | some location => exact blames_proceed h
  | none => exact blames_fail h rfl

theorem blames_withInput {use : String → Result σ} (h : ∀ text, Blames scene (use text)) :
    Blames scene (withInput turn scene use) :=
  withInput_cases (fun text _ => h text) ⟨.of_notices rfl, nofun⟩ ⟨.of_notices rfl, nofun⟩

/-- A pattern that is none is for the turn to say. -/
theorem isOfTurn_of_inputPattern {input : Input} {location : Location} {fault : Fault}
    (h : inputPattern input location = .error fault) : fault.isOfTurn := by
  unfold inputPattern at h
  split at h
  · cases h
  · split at h
    · cases h
    · obtain rfl := Except.error.inj h
      rfl

theorem storeAt_notices (path : Option String) (value : Json) (scene : Scene σ) :
    (storeAt path value scene).notices = scene.notices := by
  cases path <;> rfl

/-- **What is reported and failed with** is for a turn to say, whatever a directive does. -/
theorem Does.blames {host : Host σ} {directive : Directive} {r : Result σ}
    (h : Does host turn scene directive r) : Blames scene r := by
  -- After the host was asked to do something the world is another one.
  have hreport (world : σ) {fault : Fault} (hfault : fault.isOfTurn) :
      scene.Blames (Scene.report { scene with world } fault) :=
    (Scene.Blames.of_notices rfl).trans (Scene.blames_report _ hfault)
  cases h with
  | message => exact blames_proceed (scene.blames_print _)
  | next => exact blames_goTo _ (.of_notices rfl)
  | unnamed | unlisted | uncountable => exact blames_fail (.of_notices rfl) rfl
  | unreadable _ _ hpattern => exact blames_fail (.of_notices rfl) (isOfTurn_of_inputPattern hpattern)
  | choice | text =>
    refine blames_withInput fun text => ?_
    split <;> exact blames_silent rfl
  | links =>
    refine blames_withInput fun text => ?_
    split
    · exact blames_goTo _ (.of_notices rfl)
    · exact blames_silent rfl
  | unknown | unsent => exact blames_proceed (scene.blames_report rfl)
  | returned | responded => exact blames_silent (storeAt_notices _ _ _)
  | broken | failed => exact blames_proceed (hreport _ rfl)
  | diverted => exact blames_goTo _ (hreport _ rfl)
  | rest => exact ⟨.of_notices rfl, nofun⟩
  | _ => exact blames_silent rfl

/-- **What a directive reports and fails with** is for a turn to say. -/
theorem run_blames (host : Host σ) (directive : Directive) (turn : Turn) (scene : Scene σ) :
    Blames scene (directive.run host turn scene) :=
  (run_does host directive turn scene).blames

end Directive

namespace Turn

/-- **What a row of directives reports and fails with** is for a turn to say. -/
theorem run_blames (host : Host σ) (left : List Directive) (turn : Turn) (scene : Scene σ) :
    scene.Blames (turn.run host left scene).2.2 ∧
      ∀ fault, (turn.run host left scene).1 = .done (some fault) → fault.isOfTurn := by
  induction left generalizing turn scene with
  | nil => exact ⟨.of_notices rfl, nofun⟩
  | cons directive rest ih =>
    obtain ⟨hreports, hfails⟩ := directive.run_blames host turn scene
    rw [run]
    split <;> rename_i h <;> rw [h] at hreports hfails
    · rename_i middle found
      obtain ⟨hreports', hfails'⟩ := ih middle found
      exact ⟨hreports.trans hreports', hfails'⟩
    · exact ⟨hreports, nofun⟩
    · refine ⟨hreports, fun fault hfault => ?_⟩
      obtain rfl := Option.some.inj (Progress.done.inj hfault)
      exact hfails _ rfl
    · exact ⟨hreports, nofun⟩
    · exact ⟨hreports, nofun⟩

end Turn

end Dialogue
