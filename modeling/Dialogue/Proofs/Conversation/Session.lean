import Dialogue.Conversation.Session
import Dialogue.Proofs.Conversation.Pause
/-!
# Sessions and the states that come about

A host that makes one call at a time leads a conversation through states that come about, and between
two calls the loop is over if it was told to end. A session that has nothing to do is paused at once:
what it waited for is abandoned, and the next start takes the same step from the top.

## Main definitions

- `Session.Reached` — the sessions that come about without calls in the background
- `Session.Sane` — what holds of them

## Main statements

- `Session.Reached.sane` — the conversation of such a session comes about
- `Session.pause_abandons`
-/

namespace Dialogue

variable {σ : Type} {script : Script σ} {clock : Nat}

namespace Conversation

variable {c d : Conversation σ}

theorem isRunning_iff : c.isRunning ↔ c.phase ≠ .off ∧ c.cancelled = false := by
  unfold isRunning
  cases c.phase with
  | off => exact iff_of_false (by cases ·) fun h => h.1 rfl
  | _ => exact (Bool.not_eq_true' c.cancelled).to_iff.trans (and_iff_right (by cases ·)).symm

/-- The loop is told to end by the host alone. -/
theorem Advances.cancelled_eq {label : Option Turn} (h : Advances script clock c label d)
    (hsound : Sound script c) : d.cancelled = c.cancelled := by
  have hresumes : ∀ {turn e}, Resumes script clock c turn e → e.cancelled = c.cancelled := by
    intro turn e h
    obtain ⟨status, queue, inputs, news, rfl, -⟩ := h.eq
    rfl
  cases h with
  | stop =>
    obtain ⟨news, hend, -⟩ := endLoop_eq c
    rw [hend]
  | wait =>
    obtain ⟨news, hsuspend, -⟩ := suspend_eq c .waitingInput
    rw [hsuspend]
  | lost => rfl
  | freefall => rfl
  | @enter text rest =>
    obtain ⟨head, location, freeSteps, inputs, news, henter, -⟩ :=
      enter_received_eq script text { c with queue := rest }
    rw [henter]
  | @idle turn deadline hasking =>
    obtain ⟨head, location, status, freeSteps, news, hidle, -⟩ | ⟨event, hidle, -⟩ := goIdle_eq
      script (hsound.within turn (Phase.suspended?_of_asking hasking)).interrupted c <;>
    rw [hidle]
  | @abandon turn hturn =>
    rw [abandon_eq_emit script (hsound.within turn hturn).interrupted]
    rfl
  | @complete d turn fault after scene h hrun =>
    obtain ⟨head, outputs, talk, news, hfinish, -⟩ := finish_of_completed script turn.before
      (h.within_run hsound hrun).interrupted fault (d.absorb script scene)
    rw [hfinish, absorb_eq]
    exact (hresumes h : d.cancelled = c.cancelled)
  | @ask d turn left after scene h hrun =>
    obtain ⟨phase, news, hask, -⟩ :=
      ask_eq script clock ⟨after, left, turn.before⟩ (d.absorb script scene)
    rw [hask, absorb_eq]
    exact (hresumes h : d.cancelled = c.cancelled)
  | @rest d turn duration left after scene h hrun =>
    rw [absorb_eq]
    exact (hresumes h : d.cancelled = c.cancelled)

/-- As long as the loop has something to do it leads to states that come about. -/
theorem Reachable.settle (hc : Reachable script c) (clock : Nat) :
    Reachable script (c.settle script clock) := by
  have hnone : Course script c [] c := .refl
  obtain ⟨moves, hcourse⟩ := hnone.settleFrom clock (laps script)
  exact hcourse.reachable hc

theorem settleFrom_cancelled (hc : Reachable script c) (clock fuel : Nat) :
    (c.settleFrom script clock fuel).cancelled = c.cancelled := by
  induction fuel generalizing c with
  | zero => rfl
  | succ fuel ih =>
    rw [settleFrom]
    cases hnext : c.advance? script clock with
    | none => rfl
    | some d =>
      obtain ⟨label, hstep⟩ := advances_of_advance? hnext
      exact (ih (.loop hc hstep)).trans (hstep.cancelled_eq hc.sound)

/-- A loop that has been told to end does so, at once or after a turn is abandoned. -/
theorem settle_phase_of_cancelled (hc : Reachable script c) (hcancelled : c.cancelled)
    (hbroken : c.phase ≠ .broken) (clock : Nat) : (c.settle script clock).phase = .off := by
  obtain ⟨fuel, hfuel⟩ : ∃ fuel, laps script = fuel + 2 :=
    ⟨laps script - 2, by simp only [laps]; omega⟩
  have hended : ∀ (d : Conversation σ) (fuel : Nat), d.phase = .ready ∨ d.phase = .entering →
      d.cancelled → (d.settleFrom script clock (fuel + 1)).phase = .off := by
    intro d fuel hphase htold
    have hnext : d.advance? script clock = some d.endLoop := by
      rcases hphase with hphase | hphase <;> simp [advance?, hphase, htold]
    obtain ⟨news, hend, -⟩ := endLoop_eq d
    rw [settleFrom, hnext, hend]
    dsimp only
    rw [settleFrom_of_none rfl]
  have habandoned : ∀ turn, c.phase.suspended? = some turn →
      c.advance? script clock = some (Conversation.abandon script turn .aborted c) →
      (c.settleFrom script clock (fuel + 2)).phase = .off := by
    intro turn hturn hnext
    rw [settleFrom, hnext, abandon_eq_emit script (hc.sound.within turn hturn).interrupted]
    exact hended _ fuel (.inl rfl) hcancelled
  rw [settle, hfuel]
  cases hphase : c.phase with
  | off => rw [settleFrom_of_none (by simp [advance?, hphase]), hphase]
  | broken => exact absurd hphase hbroken
  | ready => exact hended c _ (.inl hphase) hcancelled
  | entering => exact hended c _ (.inr hphase) hcancelled
  | asking turn deadline =>
    exact habandoned turn (Phase.suspended?_of_asking hphase) (by simp [advance?, hphase, hcancelled])
  | resting turn wake =>
    exact habandoned turn (Phase.suspended?_of_resting hphase) (by simp [advance?, hphase, hcancelled])

end Conversation

namespace Session

open Conversation

variable {s t : Session σ}

/-- The sessions that come about when the host makes one call at a time. -/
inductive Reached (script : Script σ) : Session σ → Prop where
  | initial (store : Store) (world : σ) : Reached script (.ofScript script store world)
  | start {s : Session σ} (h : Reached script s) : Reached script s.start.2
  | input {s : Session σ} (text : String) (h : Reached script s) : Reached script (s.input text).2
  | post {s : Session σ} (text : String) (h : Reached script s) : Reached script (s.post text)
  | sleep {s : Session σ} (ms : Nat) (h : Reached script s) : Reached script (s.sleep ms)
  | pause {s : Session σ} (h : Reached script s) : Reached script s.pause
  | stop {s : Session σ} (h : Reached script s) : Reached script s.stop
  | navigate {s t : Session σ} (target : Option Location) (h : Reached script s)
      (hok : s.navigate target = .ok t) : Reached script t
  | write {s : Session σ} {c : Conversation σ} {path : String} {value : Json} (h : Reached script s)
      (hok : s.conversation.setVariable path value = some c) : Reached script (s.withConversation c)

/-- What holds of a session between two calls: at most the loop is ready, its conversation comes
about, and a loop that has been told to end is over. -/
structure Sane (script : Script σ) (s : Session σ) : Prop where
  script_eq : s.script = script
  ready : s.ready = [] ∨ s.ready = [.loop]
  reachable : Reachable script s.conversation
  ended : s.conversation.cancelled → s.conversation.phase = .off

/-! ### Letting things happen -/

theorem wake_eq (hready : s.ready = [] ∨ s.ready = [.loop]) : s.wake = { s with ready := [.loop] } := by
  obtain ⟨script, conversation, clock, calls, joined, ready⟩ := s
  obtain rfl | rfl : ready = [] ∨ ready = [.loop] := hready <;> rfl

theorem runReady_of_idle (hready : s.ready = []) : s.runReady = s := by
  rw [runReady, runReadyFrom, hready]

theorem runReady_of_loop (hready : s.ready = [.loop]) :
    s.runReady = { s with ready := [], conversation := s.conversation.settle s.script s.clock } := by
  rw [runReady, hready]
  simp only [List.length_singleton, runReadyFrom, hready]

namespace Sane

theorem withConversation {c : Conversation σ} (h : Sane script s) (hc : Reachable script c)
    (hended : c.cancelled → c.phase = .off) : Sane script (s.withConversation c) :=
  ⟨h.script_eq, h.ready, hc, hended⟩

theorem wake (h : Sane script s) : Sane script s.wake := by
  rw [wake_eq h.ready]
  exact ⟨h.script_eq, .inr rfl, h.reachable, h.ended⟩

theorem runReady (h : Sane script s) : Sane script s.runReady := by
  rcases h.ready with hready | hready
  · rwa [runReady_of_idle hready]
  · rw [runReady_of_loop hready, h.script_eq]
    refine ⟨rfl, .inl rfl, h.reachable.settle s.clock, fun hcancelled => ?_⟩
    have htold : s.conversation.cancelled :=
      (settleFrom_cancelled h.reachable s.clock (laps script)).symm.trans hcancelled
    have hoff := h.ended htold
    rw [settle, settleFrom_of_none (by rw [advance?, hoff])]
    exact hoff

theorem runUntil (h : Sane script s) (done : Session σ → Bool) (limit : Option Nat) (fuel : Nat) :
    Sane script (Session.runUntil done limit fuel s) := by
  induction fuel generalizing s with
  | zero => exact h.runReady
  | succ fuel ih =>
    have hready := h.runReady
    unfold Session.runUntil
    dsimp only
    split
    · exact hready
    · split
      · exact hready
      · split
        · refine ih (Sane.wake ?_)
          exact ⟨hready.script_eq, hready.ready, hready.reachable, hready.ended⟩
        · exact hready

theorem call {call : Call.Background} (h : Sane script s) (hok : s.call call = .ok t) :
    Sane script t := by
  cases call with
  | start =>
    cases hstart : s.conversation.start with
    | error fault => simp [Session.call, hstart, Except.map] at hok
    | ok c =>
      obtain rfl : (s.withConversation c).wake = t := by
        simpa [Session.call, hstart, Except.map] using hok
      obtain ⟨-, news, hc, -⟩ := start_eq hstart
      refine (h.withConversation (.call h.reachable (.start hstart)) fun hcancelled => ?_).wake
      rw [hc] at hcancelled
      cases hcancelled
  | input text =>
    cases hinput : s.conversation.input text with
    | error fault => simp [Session.call, hinput, Except.map] at hok
    | ok c =>
      obtain rfl : (s.withConversation c).wake = t := by
        simpa [Session.call, hinput, Except.map] using hok
      obtain ⟨-, news, hc, -⟩ := input_eq hinput
      refine (h.withConversation (.call h.reachable (.input text hinput)) ?_).wake
      rw [hc]
      exact h.ended

theorem callAndWait (h : Sane script s) (call : Call.Background) :
    Sane script (s.callAndWait call).2 := by
  unfold Session.callAndWait
  dsimp only
  split
  · next t hok => exact (h.call hok).runUntil _ _ _
  · exact h

/-- **Ending the loop** leaves a session whose loop is over. -/
theorem endLoop (h : Sane script s) : Sane script s.endLoop := by
  -- The session in which the loop is over and not noted to be yet.
  have hmark : ∀ {t : Session σ}, t.script = script → (t.ready = [] ∨ t.ready = [.loop]) →
      Reachable script t.conversation → t.conversation.phase = .off →
      Sane script (t.withConversation t.conversation.markPaused) := by
    intro t hscript hready hreachable hoff
    refine ⟨hscript, hready, .call hreachable (.markPaused hoff), fun _ => ?_⟩
    obtain ⟨news, hstatus, -⟩ := setStatus_eq t.conversation .paused
    show t.conversation.markPaused.phase = .off
    rw [markPaused, hstatus]
    exact hoff
  have hcancel : Reachable script s.conversation.cancel := .call h.reachable (.cancel _)
  unfold Session.endLoop
  dsimp only
  split
  · next hrunning =>
    rw [wake_eq (s := s.withConversation s.conversation.cancel) h.ready, runReady_of_loop rfl]
    refine hmark h.script_eq (.inl rfl) (h.script_eq ▸ hcancel.settle s.clock) ?_
    show (s.conversation.cancel.settle s.script s.clock).phase = .off
    rw [h.script_eq]
    have hnot := (isRunning_iff.1 hrunning).1
    by_cases hbroken : s.conversation.phase = .broken
    · have hoff : s.conversation.cancel.phase = .off := by simp [cancel, hbroken]
      rw [settle, settleFrom_of_none (by rw [advance?, hoff]), hoff]
    · have htold : s.conversation.cancel = { s.conversation with cancelled := true } := by
        unfold cancel
        split
        · next hoff => exact absurd hoff hnot
        · next hphase => exact absurd hphase hbroken
        · rfl
      rw [htold] at hcancel ⊢
      exact settle_phase_of_cancelled hcancel rfl hbroken s.clock
  · next hidle =>
    have hoff : s.conversation.phase = .off := by
      -- A loop that still runs has been told to end, and between two calls it is over then.
      by_contra hrunning
      refine hidle (isRunning_iff.2 ⟨hrunning, ?_⟩)
      by_contra hcancelled
      exact hrunning (h.ended (by simpa using hcancelled))
    have hsame : s.conversation.cancel = s.conversation := by simp [cancel, hoff]
    rw [hsame]
    exact hmark h.script_eq h.ready h.reachable hoff

end Sane

/-- **The conversation of a session** comes about by small steps, calls and writes. -/
theorem Reached.sane (h : Reached script s) : Sane script s := by
  induction h with
  | initial store world => exact ⟨rfl, .inl rfl, .initial store world, (by cases ·)⟩
  | start h ih => exact ih.callAndWait _
  | input text h ih => exact ih.callAndWait _
  | @post s text h ih =>
    unfold Session.post
    split
    · next t hok => exact ih.call hok
    · exact ih
  | @sleep s ms h ih =>
    have hslept := ih.runUntil (fun _ => false) (some (s.clock + ms)) (ms + 1)
    exact Sane.runReady ⟨hslept.script_eq, hslept.ready, hslept.reachable, hslept.ended⟩
  | pause h ih => exact ih.endLoop
  | stop h ih =>
    have hended := ih.endLoop
    exact ⟨hended.script_eq, hended.ready, .call hended.reachable (.exit _), hended.ended⟩
  | @navigate s t target h hok ih =>
    cases hnavigate : s.conversation.navigate s.script target with
    | error fault => simp [Session.navigate, hnavigate, Except.map] at hok
    | ok c =>
      obtain rfl : s.withConversation c = t := by
        simpa [Session.navigate, hnavigate, Except.map] using hok
      rw [ih.script_eq] at hnavigate
      obtain ⟨hoff, head, hc⟩ := navigate_eq hnavigate
      refine ih.withConversation (.call ih.reachable (.navigate target hnavigate)) fun _ => ?_
      rw [hc]
      exact hoff
  | write h hok ih =>
    obtain ⟨store, hc⟩ := setVariable_eq hok
    refine ih.withConversation (.write ih.reachable hok) ?_
    rw [hc]
    exact ih.ended

/-! ### Pausing -/

theorem markPaused_halted (c : Conversation σ) : c.halted.markPaused = c.halted := rfl

/-- **Pausing a session that has nothing to do** ends its loop, and a turn in flight is abandoned:
the host is told so with the location that the conversation stays at, and nothing but the waiting is
changed. This is so however the loop is run. The next start has one way to go on: it takes the same
step from the top, as the document has it, or waits for any input as before. -/
theorem pause_abandons (hc : Reachable s.script s.conversation) (hready : s.ready = [])
    (hawaits : Awaits s.script s.clock s.conversation) :
    s.pause = s.withConversation s.conversation.halted ∧
      (∀ d, Loops s.script s.clock s.conversation.cancel d → IsDone s.script s.clock d →
        d.markPaused = s.conversation.halted) ∧
      s.conversation.halted.start = .ok s.conversation.restarted ∧
      (∀ now, Decided s.script now s.conversation.restarted) ∧
      ((∃ turn step, s.conversation.phase.suspended? = some turn ∧
          s.conversation.head = some turn.turn.location ∧
          s.conversation.location = some turn.turn.location ∧
          s.script.document.step? turn.turn.location = some step ∧
          ∀ now, s.conversation.restarted.advance? s.script now =
            some (s.conversation.restarted.carryOn s.script now
              (if s.script.settings.recordPatches then some s.conversation.store.own else none)
              s.script.directives (.ofStep step turn.turn.location
                (s.script.document.following? (some turn.turn.location))))) ∨
        s.conversation.phase = .entering ∧ s.conversation.head = none ∧
          s.conversation.location = none ∧
          ∀ now, s.conversation.restarted.advance? s.script now =
            some { s.conversation.restarted.suspend .waitingInput with phase := .entering }) := by
  refine ⟨?_, fun d hloops hdone => ?_, start_halted _, fun now => decided_of_ready rfl, ?_⟩
  · have hrunning := isRunning_iff.2 ⟨hawaits.off, hawaits.not_cancelled⟩
    unfold pause Session.endLoop
    dsimp only
    rw [if_pos hrunning, wake_eq (s := s.withConversation s.conversation.cancel) (.inl hready),
      runReady_of_loop rfl]
    dsimp only [withConversation]
    rw [hawaits.settle_cancel hc, markPaused_halted, hready]
  · rw [hloops.halts hc hawaits hdone, markPaused_halted]
  · cases hturn : s.conversation.phase.suspended? with
    | some turn =>
      have hhead := hc.placed.turn turn hturn
      obtain ⟨step, hstep, hagain⟩ := Awaits.restarts hc hturn
      exact .inl ⟨turn, step, rfl, hhead, hc.placed.agrees.trans hhead, hstep, hagain⟩
    | none =>
      have hphase := hawaits.entering hturn
      have hhead := hc.head_of_entering hphase
      refine .inr ⟨hphase, hhead, hc.placed.agrees.trans hhead, fun now => ?_⟩
      simp [advance?, restarted, halted, hhead]

/-- A door that takes five seconds to go through. -/
def airlock : Script Unit where
  document := { pages :=
    [("/start", [{ links := some [("go", "/start")], delay := some (Binary64.ofInt 5) }])] }
  settings := {}
  host := ⟨[], fun _ world => (.error "offline", world)⟩

/-- A user who is inside the door, after a wrong answer and a right one. -/
def inside : Session Unit :=
  ((((ofScript airlock .empty ()).start.2.input "stop").2.post "go").sleep 0)

theorem pause_abandons_inside :
    Reached airlock inside ∧ inside.clock = 5000 ∧
      inside.pause = inside.withConversation inside.conversation.halted ∧
      inside.conversation.farewell =
        #[.interrupted (.start "/start") .aborted (some (.start "/start")) none, .status .paused] ∧
      inside.conversation.halted.start = .ok inside.conversation.restarted := by
  have hreached : Reached airlock inside := .sleep 0 (.post "go" (.input "stop" (.start (.initial _ _))))
  have hsane := hreached.sane
  have hlocation : inside.conversation.phase.suspended?.map (·.turn.location) =
      some (.start "/start") := by decide +kernel
  have hbefore : inside.conversation.phase.suspended?.map (·.before.isNone) = some true := by
    decide +kernel
  obtain ⟨turn, hturn, hturnLocation⟩ := Option.map_eq_some_iff.1 hlocation
  have hawaits : Awaits inside.script inside.clock inside.conversation := by
    refine ⟨fun hoff => ?_, fun hbroken => ?_, Option.isNone_iff_eq_none.1 (by decide +kernel)⟩
    · rw [hoff] at hturn
      cases hturn
    · rw [hbroken] at hturn
      cases hturn
  obtain ⟨hpause, -, hstart, -⟩ := pause_abandons (hsane.script_eq.symm ▸ hsane.reachable)
    (by decide +kernel) hawaits
  refine ⟨hreached, by decide +kernel, hpause, ?_, hstart⟩
  have hhead : inside.conversation.head = some (.start "/start") := by decide +kernel
  have hunrecorded : turn.before = none := by simpa [hturn] using hbefore
  simp [farewell, changes, hturn, hturnLocation, hhead, hunrecorded]

end Session

end Dialogue
