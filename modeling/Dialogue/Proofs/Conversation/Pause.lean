import Dialogue.Proofs.Conversation.Status
import Mathlib.Logic.Relation
/-!
# Ending the loop while it waits

A loop that has nothing to do and is told to end has no choice: a turn in flight is abandoned, and
then the loop is over. Nothing but the waiting itself is lost. A loop that is started again has no
choice either: it takes up the step where the other one was, from the top.

## Main definitions

- `Conversation.Decided` — the loop has no choice
- `Conversation.halted` — a waiting conversation whose loop has been ended
- `Conversation.Loops` — what the loop does at one instant

## Main statements

- `Conversation.decided_of_ready`, `Conversation.Awaits.decided` — where the loop has no choice
- `Conversation.Awaits.settle_cancel`, `Conversation.Loops.halts` — ending the loop
- `Conversation.Awaits.restarts` — starting the next one
-/

namespace Dialogue

variable {σ : Type} {script : Script σ} {clock : Nat}

namespace Conversation

variable {c d : Conversation σ}

/-- Whatever the loop may do next is what it does. -/
def Decided (script : Script σ) (clock : Nat) (c : Conversation σ) : Prop :=
  ∀ label d, Advances script clock c label d → c.advance? script clock = some d

/-! ### Where the loop has no choice -/

theorem Resumes.phase_ne_off {turn : Suspended} (h : Resumes script clock c turn d) :
    c.phase ≠ .off := by
  intro hoff
  cases h with
  | begin hphase => cases hoff.symm.trans hphase
  | answer hphase => cases hoff.symm.trans hphase
  | wake hphase => cases hoff.symm.trans hphase

/-- A loop that is over does nothing. -/
theorem Advances.phase_ne_off {label : Option Turn} (h : Advances script clock c label d) :
    c.phase ≠ .off := by
  intro hoff
  cases h with
  | stop hphase => rcases hphase with hphase | hphase <;> cases hoff.symm.trans hphase
  | wait hphase => cases hoff.symm.trans hphase
  | lost hphase => cases hoff.symm.trans hphase
  | freefall hphase => cases hoff.symm.trans hphase
  | enter hphase => cases hoff.symm.trans hphase
  | idle hphase => cases hoff.symm.trans hphase
  | abandon hphase =>
    rw [hoff] at hphase
    cases hphase
  | complete h => exact h.phase_ne_off hoff
  | ask h => exact h.phase_ne_off hoff
  | rest h => exact h.phase_ne_off hoff

/-- The current step begins with the turn as it opens. -/
theorem advance?_of_ready {location : Location} {step : Step} (hphase : c.phase = .ready)
    (hcancelled : c.cancelled = false) (hhead : c.head = some location)
    (hstep : script.document.step? location = some step) (hfall : c.inFreefall script step = false) :
    c.advance? script clock = some (c.carryOn script clock (c.opening script step location).before
      (c.opening script step location).left (c.opening script step location).turn) := by
  simp only [advance?, hphase, hcancelled, hhead, beginStep, hstep, hfall]
  rfl

/-- A turn that is taken up at the top of the loop begins there. -/
theorem Resumes.advance?_of_ready {turn : Suspended} (h : Resumes script clock c turn d)
    (hready : c.phase = .ready) :
    c.advance? script clock = some (d.carryOn script clock turn.before turn.left turn.turn) := by
  cases h with
  | begin hphase hcancelled hhead hstep hfall =>
    exact Conversation.advance?_of_ready hphase hcancelled hhead hstep hfall
  | answer hphase => cases hready.symm.trans hphase
  | wake hphase => cases hready.symm.trans hphase

/-- **At the top of the loop** there is no choice. -/
theorem decided_of_ready (hready : c.phase = .ready) : Decided script clock c := by
  intro label d h
  cases h with
  | stop hphase hcancelled => simp [advance?, hready, hcancelled]
  | wait hphase hcancelled hhead => simp [advance?, hready, hcancelled, hhead]
  | lost hphase hcancelled hhead hstep => simp [advance?, hready, hcancelled, hhead, beginStep, hstep]
  | freefall hphase hcancelled hhead hstep hfall =>
    simp [advance?, hready, hcancelled, hhead, beginStep, hstep, hfall]
  | enter hphase => cases hready.symm.trans hphase
  | idle hphase => cases hready.symm.trans hphase
  | abandon hphase =>
    rw [hready] at hphase
    cases hphase
  | complete h hrun => rw [h.advance?_of_ready hready, carryOn_eq _ _ hrun]
  | ask h hrun => rw [h.advance?_of_ready hready, carryOn_eq _ _ hrun]
  | rest h hrun => rw [h.advance?_of_ready hready, carryOn_eq _ _ hrun]

/-- A wait with nothing to do is told to end by a mark alone. -/
theorem Awaits.cancel_eq (h : Awaits script clock c) : c.cancel = { c with cancelled := true } := by
  unfold cancel
  split
  · next hphase => exact absurd hphase h.off
  · next hphase => exact absurd hphase h.broken
  · rfl

/-- **A wait with nothing to do that is told to end** has no choice: no input is there, and no time
has come. -/
theorem Awaits.decided (hawaits : Awaits script clock c) :
    Decided script clock { c with cancelled := true } := by
  intro label d h
  have hempty : c.phase.isWaiting → c.queue = [] := by
    intro hphase
    rcases hawaits.waits with ⟨-, hqueue⟩ | ⟨turn, wake, hresting⟩
    · exact hqueue
    · rw [hresting] at hphase
      cases hphase
  -- The top of the loop always has something to do.
  have hready : c.phase ≠ .ready := by
    intro hphase
    rcases hawaits.waits with ⟨hwaiting, -⟩ | ⟨turn, wake, hresting⟩
    · rw [hphase] at hwaiting
      cases hwaiting
    · cases hphase.symm.trans hresting
  -- No turn is taken up: there is no input for a wait, and the end of a delay is still to come.
  have hresumes : ∀ {turn d}, ¬ Resumes script clock { c with cancelled := true } turn d := by
    intro turn d h
    cases h with
    | begin hphase hcancelled => cases hcancelled
    | answer hphase hqueue =>
      have hphase' : c.phase = _ := hphase
      have hnone := hempty (by rw [hphase']; rfl)
      cases hnone.symm.trans hqueue
    | @wake turn time hphase htime =>
      have halarm : c.alarm? = some time := by
        have hphase' : c.phase = _ := hphase
        rw [alarm?, hphase']
      exact absurd htime (Nat.not_le_of_lt (hawaits.lt_alarm halarm))
  cases h with
  | stop hphase hcancelled =>
    rcases hphase with hphase | hphase <;> simp [advance?, show c.phase = _ from hphase]
  | wait hphase => exact absurd hphase hready
  | lost hphase => exact absurd hphase hready
  | freefall hphase => exact absurd hphase hready
  | enter hphase hqueue =>
    have hphase' : c.phase = .entering := hphase
    have hnone := hempty (by rw [hphase']; rfl)
    cases hnone.symm.trans hqueue
  | @idle turn deadline hphase hdeadline =>
    have halarm : c.alarm? = some deadline := by
      have hphase' : c.phase = _ := hphase
      rw [alarm?, hphase']
    exact absurd hdeadline (Nat.not_le_of_lt (hawaits.lt_alarm halarm))
  | @abandon turn hphase =>
    have hphase' : c.phase.suspended? = some turn := hphase
    cases hsuspended : c.phase with
    | asking other deadline =>
      obtain rfl : other = turn := by simpa [hsuspended, Phase.suspended?] using hphase'
      simp [advance?]
    | resting other wake =>
      obtain rfl : other = turn := by simpa [hsuspended, Phase.suspended?] using hphase'
      simp [advance?]
    | _ => simp [hsuspended, Phase.suspended?] at hphase'
  | complete h => exact absurd h hresumes
  | ask h => exact absurd h hresumes
  | rest h => exact absurd h hresumes

/-! ### Ending the loop -/

/-- What the host is told when a waiting loop is ended: a turn in flight is abandoned, and the
conversation is paused. -/
def farewell (c : Conversation σ) : Array Event :=
  (match c.phase.suspended? with
    | some turn =>
      #[.interrupted turn.turn.location .aborted c.head (c.changes turn.before)]
    | none => #[]) ++ #[.status .paused]

/-- A waiting conversation whose loop has been ended. Everything that is not named stays. -/
def halted (c : Conversation σ) : Conversation σ :=
  { c with
    phase := .off
    status := .paused
    queue := []
    cancelled := true
    yields := c.yields + 1
    events := c.events ++ c.farewell }

/-- Ending a loop that is not paused tells so. -/
theorem endLoop_of_running (h : c.status ≠ .paused) :
    c.endLoop = { c with
      queue := [], phase := .off, yields := c.yields + 1, status := .paused
      events := c.events.push (.status .paused) } := by
  unfold endLoop suspend setStatus
  rw [if_neg h]
  rfl

/-- A turn in flight is abandoned first. -/
theorem Awaits.ends_of_suspended (hc : Reachable script c) (h : Awaits script clock c)
    {turn : Suspended} (hturn : c.phase.suspended? = some turn) :
    advance? script clock { c with cancelled := true } =
        some (Conversation.abandon script turn .aborted { c with cancelled := true }) ∧
      advance? script clock (Conversation.abandon script turn .aborted { c with cancelled := true }) =
        some c.halted := by
  have hrunning : c.status ≠ .paused := fun hpaused => h.off (hc.sound.off hpaused)
  have habandon := abandon_eq_emit script (hc.sound.within turn hturn).interrupted .aborted
    { c with cancelled := true }
  constructor
  · cases hphase : c.phase with
    | asking other deadline =>
      obtain rfl : other = turn := by simpa [hphase, Phase.suspended?] using hturn
      rfl
    | resting other wake =>
      obtain rfl : other = turn := by simpa [hphase, Phase.suspended?] using hturn
      rfl
    | _ => simp [hphase, Phase.suspended?] at hturn
  · have hnext : advance? script clock
        (Conversation.abandon script turn .aborted { c with cancelled := true }) =
          some (Conversation.abandon script turn .aborted { c with cancelled := true }).endLoop := by
      rw [habandon]
      rfl
    have hstatus : (Conversation.abandon script turn .aborted { c with cancelled := true }).status ≠
        .paused := by
      rw [habandon]
      exact hrunning
    rw [hnext, endLoop_of_running hstatus, habandon]
    simp only [halted, farewell, hturn, giveWay, emit, changes, Array.push_eq_append,
      Array.append_assoc]

/-- A loop with nothing to do and no turn in flight waits for any input. -/
theorem Awaits.entering (h : Awaits script clock c) (hfree : c.phase.suspended? = none) :
    c.phase = .entering := by
  rcases h.waits with ⟨hwaiting, -⟩ | ⟨turn, wake, hresting⟩
  · cases hphase : c.phase with
    | entering => rfl
    | asking turn deadline => simp [hphase, Phase.suspended?] at hfree
    | _ => simp [hphase, Phase.isWaiting] at hwaiting
  · simp [hresting, Phase.suspended?] at hfree

/-- Without a turn in flight the loop is over at once. -/
theorem Awaits.ends_of_free (hc : Reachable script c) (h : Awaits script clock c)
    (hfree : c.phase.suspended? = none) :
    advance? script clock { c with cancelled := true } = some c.halted := by
  have hrunning : c.status ≠ .paused := fun hpaused => h.off (hc.sound.off hpaused)
  have hphase := h.entering hfree
  have hend := endLoop_of_running (c := { c with cancelled := true }) hrunning
  have hnext : advance? script clock { c with cancelled := true } =
      some (endLoop { c with cancelled := true }) := by
    simp [advance?, hphase, endLoop]
  rw [hnext, hend]
  simp [halted, farewell, hfree]

/-- What the loop may do at one instant. -/
def Loops (script : Script σ) (clock : Nat) : Conversation σ → Conversation σ → Prop :=
  Relation.ReflTransGen fun c d => ∃ label, Advances script clock c label d

/-- The loop has done all that it may do at this instant. -/
def IsDone (script : Script σ) (clock : Nat) (c : Conversation σ) : Prop :=
  ∀ label d, ¬ Advances script clock c label d

/-- Where the loop has no choice, it goes on as it does. -/
theorem Loops.next {e : Conversation σ} (h : Loops script clock c e) (hdone : IsDone script clock e)
    (hdecided : Decided script clock c) (hnext : c.advance? script clock = some d) :
    Loops script clock d e := by
  rcases Relation.ReflTransGen.cases_head h with rfl | ⟨d', ⟨label, hstep⟩, hrest⟩
  · obtain ⟨label, hstep⟩ := advances_of_advance? hnext
    exact absurd hstep (hdone label d)
  · obtain rfl : d = d' := Option.some.inj (hnext.symm.trans (hdecided label d' hstep))
    exact hrest

/-- A loop that is over stays so. -/
theorem Loops.of_off {e : Conversation σ} (h : Loops script clock c e) (hoff : c.phase = .off) :
    e = c := by
  rcases Relation.ReflTransGen.cases_head h with rfl | ⟨d, ⟨label, hstep⟩, -⟩
  · rfl
  · exact absurd hoff hstep.phase_ne_off

/-- **However the loop is run** once it has been told to end, it ends in the same way. -/
theorem Loops.halts (hc : Reachable script c) (hawaits : Awaits script clock c)
    (h : Loops script clock c.cancel d) (hdone : IsDone script clock d) : d = c.halted := by
  rw [hawaits.cancel_eq] at h
  cases hturn : c.phase.suspended? with
  | none => exact (h.next hdone hawaits.decided (hawaits.ends_of_free hc hturn)).of_off rfl
  | some turn =>
    obtain ⟨hnext, hend⟩ := hawaits.ends_of_suspended hc hturn
    have hready : (Conversation.abandon script turn .aborted { c with cancelled := true }).phase =
        .ready := by
      rw [abandon_eq_emit script (hc.sound.within turn hturn).interrupted]
      rfl
    have habandoned := h.next hdone hawaits.decided hnext
    exact (habandoned.next hdone (decided_of_ready hready) hend).of_off rfl

/-- With nothing to do the loop stays where it is. -/
theorem settleFrom_of_none (h : c.advance? script clock = none) (fuel : Nat) :
    c.settleFrom script clock fuel = c := by
  cases fuel with
  | zero => rfl
  | succ fuel => rw [settleFrom, h]

/-- **Telling a waiting loop to end** and letting it run ends it. -/
theorem Awaits.settle_cancel (hc : Reachable script c) (hawaits : Awaits script clock c) :
    c.cancel.settle script clock = c.halted := by
  obtain ⟨fuel, hfuel⟩ : ∃ fuel, laps script = fuel + 2 :=
    ⟨laps script - 2, by simp only [laps]; omega⟩
  rw [hawaits.cancel_eq, settle, hfuel, settleFrom]
  cases hturn : c.phase.suspended? with
  | none =>
    rw [hawaits.ends_of_free hc hturn]
    exact settleFrom_of_none rfl _
  | some turn =>
    obtain ⟨hnext, hend⟩ := hawaits.ends_of_suspended hc hturn
    rw [hnext]
    dsimp only
    rw [settleFrom, hend]
    exact settleFrom_of_none rfl _

/-! ### Starting again -/

/-- A conversation whose loop has been ended and is started again. -/
def restarted (c : Conversation σ) : Conversation σ :=
  { c.halted with
    phase := .ready
    status := .busy
    cancelled := false
    events := c.halted.events.push (.status .busy) }

theorem start_halted (c : Conversation σ) : c.halted.start = .ok c.restarted := rfl

/-- A small step leads to a wait for any input only without a current step. -/
theorem Advances.head_of_entering {label : Option Turn} (h : Advances script clock c label d)
    (hsound : Sound script c) (hphase : d.phase = .entering) : d.head = none := by
  cases h with
  | stop =>
    obtain ⟨news, hend, -⟩ := endLoop_eq c
    rw [hend] at hphase
    cases hphase
  | wait hready hcancelled hhead =>
    obtain ⟨news, hsuspend, -⟩ := suspend_eq c .waitingInput
    rw [hsuspend]
    exact hhead
  | lost hready => cases hready.symm.trans hphase
  | freefall hready => cases hready.symm.trans hphase
  | @enter text rest =>
    obtain ⟨head, location, freeSteps, inputs, news, henter, -⟩ :=
      enter_received_eq script text { c with queue := rest }
    rw [henter] at hphase
    cases hphase
  | @idle turn deadline hasking =>
    obtain ⟨head, location, status, freeSteps, news, hidle, -⟩ | ⟨event, hidle, -⟩ := goIdle_eq
      script (hsound.within turn (Phase.suspended?_of_asking hasking)).interrupted c <;>
    · rw [hidle] at hphase
      cases hphase
  | @abandon turn hturn =>
    rw [abandon_eq_emit script (hsound.within turn hturn).interrupted] at hphase
    cases hphase
  | @complete d turn fault after scene h hrun =>
    obtain ⟨head, outputs, talk, news, hfinish, -⟩ := finish_of_completed script turn.before
      (h.within_run hsound hrun).interrupted fault (d.absorb script scene)
    rw [hfinish] at hphase
    cases hphase
  | @ask d turn left after scene h hrun =>
    obtain ⟨phase, news, hask, rfl | ⟨deadline, rfl⟩, -⟩ :=
      ask_eq script clock ⟨after, left, turn.before⟩ (d.absorb script scene) <;>
    · rw [hask] at hphase
      cases hphase
  | rest => cases hphase

/-- A call leaves a wait for any input where it is. -/
theorem Calls.entering (h : Calls script c d) (hphase : d.phase = .entering) :
    c.phase = .entering ∧ d.head = c.head := by
  cases h with
  | start h =>
    obtain ⟨-, news, rfl, -⟩ := start_eq h
    cases hphase
  | input text h =>
    obtain ⟨-, news, rfl, -⟩ := input_eq h
    exact ⟨hphase, rfl⟩
  | navigate target h =>
    obtain ⟨hoff, head, rfl⟩ := navigate_eq h
    cases hoff.symm.trans hphase
  | cancel =>
    rcases cancel_eq c with hcancel | ⟨-, hcancel⟩ | hcancel <;> rw [hcancel] at hphase ⊢
    · exact ⟨hphase, rfl⟩
    · cases hphase
    · exact ⟨hphase, rfl⟩
  | markPaused hoff =>
    obtain ⟨news, hstatus, -⟩ := setStatus_eq c .paused
    rw [Conversation.markPaused, hstatus] at hphase
    cases hoff.symm.trans hphase
  | exit => exact ⟨hphase, rfl⟩

/-- **Only a loop without a current step** waits for any input. -/
theorem Reachable.head_of_entering (h : Reachable script c) (hphase : c.phase = .entering) :
    c.head = none := by
  induction h with
  | initial store world => cases hphase
  | loop hc h _ => exact h.head_of_entering hc.sound hphase
  | call hc h ih =>
    obtain ⟨hbefore, hhead⟩ := h.entering hphase
    exact hhead.trans (ih hbefore)
  | write hc h ih =>
    obtain ⟨store, rfl⟩ := setVariable_eq h
    exact ih hphase

/-- **A turn that was abandoned** starts from the top: from the step as it is written, with no input,
no rejection and no branch of before. It is let to run as it was. -/
theorem Awaits.restarts (hc : Reachable script c) {turn : Suspended}
    (hturn : c.phase.suspended? = some turn) :
    ∃ step, script.document.step? turn.turn.location = some step ∧ ∀ now,
      c.restarted.advance? script now = some (c.restarted.carryOn script now
        (if script.settings.recordPatches then some c.store.own else none) script.directives
        (.ofStep step turn.turn.location
          (script.document.following? (some turn.turn.location)))) := by
  have hhead := hc.placed.turn turn hturn
  obtain ⟨step, hstep⟩ := Option.isSome_iff_exists.1
    ((hc.placed.atStep_of_suspended hturn).resolves _ hhead)
  -- It was let to run when it began, and the count has stayed since.
  have hfall : c.restarted.inFreefall script step = false := by
    rcases (hc.sound.within turn hturn).let_run with hmay | hfew
    · have hawaits : step.awaitsInput := by
        rwa [Script.mayAsk, hstep] at hmay
      simp [inFreefall, hawaits]
    · have hfew' : ¬ script.settings.freefallLimit ≤ c.restarted.freeSteps := Nat.not_le_of_lt hfew
      simp [inFreefall, hfew']
  exact ⟨step, hstep, fun now => advance?_of_ready rfl rfl hhead hstep hfall⟩

end Conversation

end Dialogue
