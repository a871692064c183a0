import Dialogue.Conversation.Call
import Dialogue.Proofs.Conversation.Advance
import Dialogue.Proofs.Turn.Asking
/-!
# The states that come about

A conversation comes about by small steps of its loop, calls of its host and writes of its host to
the variables. In each such state a conversation that counts as paused has no loop, and a turn that
waits is uninterrupted and was let to run: its step may wait for the user, or few enough steps had
run without waiting.

## Main definitions

- `Conversation.Calls`, `Conversation.Reachable` — calls of the host, and the states that come about
- `Suspended.Within`, `Conversation.Sound` — what holds of them

## Main statements

- `Conversation.Advances.sound`, `Conversation.Calls.sound` — a small step, and a call
- `Conversation.Advances.suspended`, `Conversation.Calls.suspended` — the turn that waits after it
- `Conversation.Reachable.sound`
-/

namespace Dialogue

variable {σ : Type} {script : Script σ} {clock : Nat}

/-- Whether the step at a location is one that is sure to ask the user. -/
def Script.surelyAsks (script : Script σ) (location : Location) : Bool :=
  (script.document.step? location).any Step.surelyAsks

/-- A step that may wait is sure to ask where each such step of the document is. -/
theorem Script.surelyAsks_of_mayAsk
    (hsteps : ∀ page ∈ script.document.pages, ∀ step ∈ page.2, step.awaitsInput → step.surelyAsks)
    (location : Location) (h : script.mayAsk location) : script.surelyAsks location := by
  obtain ⟨step, hstep, hmay⟩ := (Option.any_eq_true _ _).1 h
  obtain ⟨steps, hpage, hget⟩ := Option.bind_eq_some_iff.1 hstep
  have hsure := hsteps _ (Keyed.mem_of_get? hpage) step (List.mem_of_getElem? hget) hmay
  rw [Script.surelyAsks, hstep]
  exact hsure

theorem Phase.eq_off_of_bne {phase : Phase} (h : (phase != .off) = false) : phase = .off := by
  cases phase with
  | off => rfl
  | _ => cases h

namespace Conversation

/-- A call of the host that is not refused. A pause tells the loop to end, and notes that it has
once it is off; it may be announced that the conversation is over. -/
inductive Calls (script : Script σ) : Conversation σ → Conversation σ → Prop where
  | start {c c' : Conversation σ} (h : c.start = .ok c') : Calls script c c'
  | input {c c' : Conversation σ} (text : String) (h : c.input text = .ok c') : Calls script c c'
  | navigate {c c' : Conversation σ} (target : Option Location)
      (h : c.navigate script target = .ok c') : Calls script c c'
  | cancel (c : Conversation σ) : Calls script c c.cancel
  | markPaused {c : Conversation σ} (hphase : c.phase = .off) : Calls script c c.markPaused
  | exit (c : Conversation σ) : Calls script c (c.emit .exit)

/-- The states that come about. -/
inductive Reachable (script : Script σ) : Conversation σ → Prop where
  | initial (store : Store) (world : σ) : Reachable script (.ofScript script store world)
  | loop {c c' : Conversation σ} {clock : Nat} {label : Option Turn} (hc : Reachable script c)
      (h : Advances script clock c label c') : Reachable script c'
  | call {c c' : Conversation σ} (hc : Reachable script c) (h : Calls script c c') :
      Reachable script c'
  | write {c c' : Conversation σ} {path : String} {value : Json} (hc : Reachable script c)
      (h : c.setVariable path value = some c') : Reachable script c'

/-! ### Calls -/

theorem start_eq {c c' : Conversation σ} (h : c.start = .ok c') :
    c.status = .paused ∧ ∃ news : Array Event, c' = { c with
        status := .busy, phase := .ready, cancelled := false, events := c.events ++ news } ∧
      ∀ e ∈ news, e.isMute := by
  unfold start at h
  split at h
  · simp at h
  · next hidle =>
    obtain rfl := Except.ok.inj h
    obtain ⟨news, hstatus, hmute⟩ := setStatus_eq c .busy
    refine ⟨?_, news, by rw [hstatus], hmute⟩
    simp only [Bool.or_eq_true, bne_iff_ne, not_or, Decidable.not_not] at hidle
    exact hidle.2

theorem input_eq {c c' : Conversation σ} {text : String} (h : c.input text = .ok c') :
    c.status = .waitingInput ∧ ∃ news : Array Event, c' = { c with
        status := .busy, queue := c.queue ++ [text], events := c.events ++ news } ∧
      ∀ e ∈ news, e.isMute := by
  unfold input at h
  split at h
  · next hwaiting =>
    obtain rfl := Except.ok.inj h
    obtain ⟨news, hstatus, hmute⟩ := setStatus_eq c .busy
    exact ⟨hwaiting, news, by rw [hstatus], hmute⟩
  · simp at h

theorem navigate_eq {c c' : Conversation σ} {target : Option Location}
    (h : c.navigate script target = .ok c') :
    c.phase = .off ∧ ∃ head, c' = { c with freeSteps := 0, head, location := head } := by
  unfold navigate at h
  split at h
  · simp at h
  · next hoff =>
    split at h
    · next head _ =>
      obtain rfl := Except.ok.inj h
      exact ⟨Phase.eq_off_of_bne (by simpa using hoff), head, rfl⟩
    · simp at h

theorem cancel_eq (c : Conversation σ) :
    c.cancel = c ∨ (c.phase = .broken ∧ c.cancel = { c with phase := .off }) ∨
      c.cancel = { c with cancelled := true } := by
  unfold cancel
  split
  · exact .inl rfl
  · next h => exact .inr (.inl ⟨h, rfl⟩)
  · exact .inr (.inr rfl)

theorem setVariable_eq {c c' : Conversation σ} {path : String} {value : Json}
    (h : c.setVariable path value = some c') : ∃ store, c' = { c with store } := by
  obtain ⟨store, -, rfl⟩ := Option.map_eq_some_iff.1 h
  exact ⟨store, rfl⟩

end Conversation

/-! ### Invariants -/

/-- A turn that waits was let to run, with this many steps before it that did not wait. -/
structure Suspended.Within (script : Script σ) (freeSteps : Nat) (turn : Suspended) : Prop where
  interrupted : turn.turn.interrupted = none
  left : turn.left.length ≤ script.directives.length
  let_run : script.mayAsk turn.turn.location ∨ freeSteps < script.settings.freefallLimit

namespace Conversation

/-- What holds of every state that comes about. -/
structure Sound (script : Script σ) (c : Conversation σ) : Prop where
  off : c.status = .paused → c.phase = .off
  within : ∀ turn, c.phase.suspended? = some turn → turn.Within script c.freeSteps
  requested : ∀ turn deadline, c.phase = .asking turn deadline → turn.turn.inputRequested
  asked : script.directives = Directive.standard → ∀ turn, c.phase.suspended? = some turn →
    script.surelyAsks turn.turn.location → turn.turn.inputRequested

/-- A state without a turn that waits. -/
theorem Sound.of_free {c : Conversation σ} (hoff : c.status = .paused → c.phase = .off)
    (hfree : c.phase.suspended? = none) : Sound script c where
  off := hoff
  within turn h := by rw [hfree] at h; cases h
  requested turn deadline h := by rw [h] at hfree; cases hfree
  asked _ turn h := by rw [hfree] at h; cases h

/-- Taking up a turn changes little: it may receive an input. -/
theorem Resumes.eq {c d : Conversation σ} {turn : Suspended} (h : Resumes script clock c turn d) :
    ∃ status queue inputs, ∃ news : Array Event, d = { c with
        status, queue, inputs, events := c.events ++ news } ∧
      (status = c.status ∨ status = .busy) ∧ ∀ e ∈ news, e.endsTurn = false := by
  cases h with
  | begin => exact ⟨c.status, c.queue, c.inputs, #[], by simp, .inl rfl, by simp⟩
  | wake => exact ⟨c.status, c.queue, c.inputs, #[], by simp, .inl rfl, by simp⟩
  | @answer turn deadline text rest =>
    obtain ⟨inputs, news, hreceived, hmute⟩ := received_eq script { c with queue := rest } text
    refine ⟨.busy, rest, inputs, news ++ #[.input text], ?_, .inr rfl, ?_⟩
    · simp only [hreceived, Array.append_assoc]
    · exact Event.quiet_append (Event.quiet_of_mute hmute) (by simp [Event.endsTurn])

/-- A turn that is taken up was let to run. -/
theorem Resumes.within {c d : Conversation σ} {turn : Suspended}
    (h : Resumes script clock c turn d) (hc : Sound script c) :
    turn.Within script c.freeSteps := by
  cases h with
  | @begin location step hphase hcancelled hhead hstep hfall =>
    refine ⟨rfl, Nat.le_refl _, ?_⟩
    have hmay : script.mayAsk location = step.awaitsInput := by rw [Script.mayAsk, hstep]; rfl
    show script.mayAsk location = true ∨ _
    rw [hmay]
    simpa [inFreefall, or_comm, Classical.or_iff_not_imp_left] using hfall
  | answer hphase hqueue =>
    obtain ⟨hinterrupted, hleft, hlet⟩ := hc.within _ (Phase.suspended?_of_asking hphase)
    exact ⟨hinterrupted, hleft, hlet⟩
  | wake hphase htime => exact hc.within _ (Phase.suspended?_of_resting hphase)

/-- A turn that has to wait again was let to run as before. -/
theorem Resumes.within_run {c d : Conversation σ} {turn : Suspended}
    (h : Resumes script clock c turn d) (hc : Sound script c) {progress : Progress} {after : Turn}
    {scene : Scene σ}
    (hrun : turn.turn.run script.host turn.left { store := d.store, world := d.world } =
      (progress, after, scene)) :
    Suspended.Within script c.freeSteps ⟨after, progress.left, turn.before⟩ := by
  obtain ⟨hinterrupted, hleft, hlet⟩ := h.within hc
  obtain ⟨hlocation, hinterrupted', -, -⟩ := Turn.run_keeps script.host turn.left turn.turn
    { store := d.store, world := d.world }
  have hshort := Turn.left_run_le script.host turn.left turn.turn
    { store := d.store, world := d.world }
  rw [hrun] at hlocation hinterrupted' hshort
  exact ⟨hinterrupted'.trans hinterrupted, Nat.le_trans hshort hleft, hlocation ▸ hlet⟩

/-- A turn whose step is sure to ask has asked once it is over or has to wait again. -/
theorem Resumes.requested {c d : Conversation σ} {turn : Suspended}
    (h : Resumes script clock c turn d) (hc : Sound script c)
    (hdirectives : script.directives = Directive.standard) {progress : Progress} {after : Turn}
    {scene : Scene σ}
    (hrun : turn.turn.run script.host turn.left { store := d.store, world := d.world } =
      (progress, after, scene)) (hsure : script.surelyAsks after.location) :
    after.inputRequested := by
  obtain ⟨hlocation, -, -, hrequested⟩ := Turn.run_keeps script.host turn.left turn.turn
    { store := d.store, world := d.world }
  rw [hrun] at hlocation hrequested
  dsimp only at hlocation hrequested
  rw [hlocation] at hsure
  rw [hrequested, Bool.or_eq_true]
  cases h with
  | @begin location step hphase hcancelled hhead hstep hfall =>
    have hasks : step.surelyAsks := by
      rwa [Script.surelyAsks, show (c.opening script step location).turn.location = location from rfl,
        hstep] at hsure
    have hrunning := Turn.run_asks hasks script.host location
      (script.document.following? (some location)) { store := c.store, world := c.world }
    rw [← hdirectives] at hrunning
    exact .inr (congrArg (·.1.asks) hrun ▸ hrunning)
  | @answer turn deadline text rest hphase hqueue =>
    exact .inl (hc.requested turn deadline hphase)
  | wake hphase htime =>
    exact .inl (hc.asked hdirectives _ (Phase.suspended?_of_resting hphase) hsure)

/-- A turn is taken up only while the conversation does not count as paused. -/
theorem Resumes.status_ne_paused {c d : Conversation σ} {turn : Suspended}
    (h : Resumes script clock c turn d) (hc : Sound script c) : d.status ≠ .paused := by
  have hrunning : c.phase ≠ .off := by
    intro hoff
    cases h with
    | begin hphase => cases hoff.symm.trans hphase
    | answer hphase => cases hoff.symm.trans hphase
    | wake hphase => cases hoff.symm.trans hphase
  obtain ⟨status, queue, inputs, news, rfl, hstatus, -⟩ := h.eq
  rintro rfl
  rcases hstatus with hstatus | hstatus
  · exact hrunning (hc.off hstatus.symm)
  · cases hstatus

/-- **Small steps keep the invariants.** -/
theorem Advances.sound {c c' : Conversation σ} {label : Option Turn}
    (h : Advances script clock c label c') (hc : Sound script c) : Sound script c' := by
  cases h with
  | stop hphase hcancelled =>
    obtain ⟨news, hend, -⟩ := endLoop_eq c
    rw [hend]
    exact .of_free (fun _ => rfl) rfl
  | wait hphase hcancelled hhead =>
    obtain ⟨news, hsuspend, -⟩ := suspend_eq c .waitingInput
    rw [hsuspend]
    exact .of_free (by cases ·) rfl
  | lost hphase hcancelled hhead hstep =>
    refine .of_free hc.off ?_
    show c.phase.suspended? = none
    rw [hphase]
    rfl
  | freefall hphase hcancelled hhead hstep hfall =>
    refine .of_free hc.off ?_
    show c.phase.suspended? = none
    rw [hphase]
    rfl
  | @enter text rest hphase hqueue =>
    obtain ⟨head, location, freeSteps, inputs, news, henter, -⟩ :=
      enter_received_eq script text { c with queue := rest }
    rw [henter]
    exact .of_free (by cases ·) rfl
  | @idle turn deadline hphase hdeadline =>
    have hwithin := hc.within turn (Phase.suspended?_of_asking hphase)
    obtain ⟨head, location, status, freeSteps, news, hidle, rfl, -⟩ | ⟨event, hidle, -⟩ :=
      goIdle_eq script hwithin.interrupted c
    · rw [hidle]
      exact .of_free (by cases ·) rfl
    · rw [hidle]
      refine ⟨fun hpaused => ?_, fun t ht => ?_, fun t _ ht => ?_, fun _ t ht _ => ?_⟩
      · have hoff := hc.off hpaused
        rw [hphase] at hoff
        cases hoff
      · obtain rfl := Option.some.inj ht
        exact hwithin
      · obtain ⟨rfl, -⟩ := Phase.asking.inj ht
        exact hc.requested turn _ hphase
      · obtain rfl := Option.some.inj ht
        exact hc.requested turn _ hphase
  | @abandon turn hphase hcancelled =>
    obtain ⟨head, location, store, freeSteps, news, habandon, -⟩ :=
      abandon_eq script (hc.within turn hphase).interrupted .aborted c
    rw [habandon]
    refine .of_free (fun hpaused => ?_) rfl
    rw [hc.off hpaused] at hphase
    cases hphase
  | @complete d turn fault after scene h hrun =>
    have hinterrupted := (h.within_run hc hrun).interrupted
    have hstatus := h.status_ne_paused hc
    obtain ⟨head, outputs, talk, news, hfinish, -⟩ :=
      finish_of_completed script turn.before hinterrupted fault (d.absorb script scene)
    rw [hfinish, absorb_eq]
    exact .of_free (fun hpaused => absurd hpaused hstatus) rfl
  | @ask d turn left after scene h hrun =>
    have hwithin := h.within_run hc hrun
    have hrequested := (Turn.run_keeps script.host turn.left turn.turn
      { store := d.store, world := d.world }).inputRequested
    rw [hrun] at hrequested
    obtain ⟨status, queue, inputs, told, rfl, -⟩ := h.eq
    rw [absorb_eq]
    obtain ⟨phase, news, hask, hphase | ⟨deadline, hphase⟩, -⟩ :=
      ask_eq script clock ⟨after, left, turn.before⟩ _
    · rw [hask, hphase]
      exact .of_free (by cases ·) rfl
    · rw [hask, hphase]
      refine ⟨(by cases ·), fun t ht => ?_, fun t _ ht => ?_, fun _ t ht _ => ?_⟩
      · obtain rfl := Option.some.inj ht
        exact hwithin
      · obtain ⟨rfl, -⟩ := Phase.asking.inj ht
        exact hrequested.trans (Bool.or_true _)
      · obtain rfl := Option.some.inj ht
        exact hrequested.trans (Bool.or_true _)
  | @rest d turn duration left after scene h hrun =>
    have hwithin := h.within_run hc hrun
    have hstatus := h.status_ne_paused hc
    have hrequested := fun hdirectives => h.requested hc hdirectives hrun
    obtain ⟨status, queue, inputs, told, rfl, -⟩ := h.eq
    rw [absorb_eq]
    refine ⟨fun hpaused => absurd hpaused hstatus, fun t ht => ?_, fun t _ ht => ?_,
      fun hdirectives t ht hsure => ?_⟩
    · obtain rfl := Option.some.inj ht
      exact hwithin
    · cases ht
    · obtain rfl := Option.some.inj ht
      exact hrequested hdirectives hsure

/-- **Calls of the host keep the invariants.** -/
theorem Calls.sound {c c' : Conversation σ} (h : Calls script c c') (hc : Sound script c) :
    Sound script c' := by
  cases h with
  | start h =>
    obtain ⟨-, news, rfl, -⟩ := start_eq h
    exact .of_free (by cases ·) rfl
  | input text h =>
    obtain ⟨-, news, rfl, -⟩ := input_eq h
    exact ⟨(by cases ·), hc.within, hc.requested, hc.asked⟩
  | navigate target h =>
    obtain ⟨hoff, head, rfl⟩ := navigate_eq h
    exact .of_free hc.off (by show c.phase.suspended? = none; rw [hoff]; rfl)
  | cancel =>
    rcases cancel_eq c with hcancel | ⟨-, hcancel⟩ | hcancel
    · rwa [hcancel]
    · rw [hcancel]
      exact .of_free (fun _ => rfl) rfl
    · rw [hcancel]
      exact ⟨hc.off, hc.within, hc.requested, hc.asked⟩
  | markPaused hoff =>
    obtain ⟨news, hstatus, -⟩ := setStatus_eq c .paused
    rw [Conversation.markPaused, hstatus]
    exact .of_free (fun _ => hoff) (by show c.phase.suspended? = none; rw [hoff]; rfl)
  | exit => exact ⟨hc.off, hc.within, hc.requested, hc.asked⟩

/-! ### Turns that wait -/

/-- The turn that waits after a small step has waited before, or is the one that was carried on. -/
theorem Advances.suspended {c c' : Conversation σ} {label : Option Turn}
    (h : Advances script clock c label c') (hsound : Sound script c) {waiting : Suspended}
    (hwaiting : c'.phase.suspended? = some waiting) :
    c.phase.suspended? = some waiting ∨ ∃ d turn progress scene, Resumes script clock c turn d ∧
      turn.turn.run script.host turn.left { store := d.store, world := d.world } =
        (progress, waiting.turn, scene) ∧
      c' = d.carryOn script clock turn.before turn.left turn.turn := by
  cases h with
  | stop hphase hcancelled =>
    obtain ⟨news, hend, -⟩ := endLoop_eq c
    rw [hend] at hwaiting
    cases hwaiting
  | wait hphase hcancelled hhead => cases hwaiting
  | lost hphase hcancelled hhead hstep => exact .inl hwaiting
  | freefall hphase hcancelled hhead hstep hfall => exact .inl hwaiting
  | @enter text rest hphase hqueue =>
    obtain ⟨head, location, freeSteps, inputs, news, henter, -⟩ :=
      enter_received_eq script text { c with queue := rest }
    rw [henter] at hwaiting
    cases hwaiting
  | @idle turn deadline hphase hdeadline =>
    have hturn : c.phase.suspended? = some turn := Phase.suspended?_of_asking hphase
    obtain ⟨head, location, status, freeSteps, news, hidle, -⟩ | ⟨event, hidle, -⟩ :=
      goIdle_eq script (hsound.within turn hturn).interrupted c
    · rw [hidle] at hwaiting
      cases hwaiting
    · rw [hidle] at hwaiting
      obtain rfl := Option.some.inj hwaiting
      exact .inl hturn
  | @abandon turn hphase hcancelled =>
    obtain ⟨head, location, store, freeSteps, news, habandon, -⟩ :=
      abandon_eq script (hsound.within turn hphase).interrupted .aborted c
    rw [habandon] at hwaiting
    cases hwaiting
  | @complete d turn fault after scene h hrun =>
    obtain ⟨head, outputs, talk, news, hfinish, -⟩ := finish_of_completed script turn.before
      (h.within_run hsound hrun).interrupted fault (d.absorb script scene)
    rw [hfinish] at hwaiting
    cases hwaiting
  | @ask d turn left after scene h hrun =>
    obtain ⟨phase, news, hask, rfl | ⟨deadline, rfl⟩, -⟩ :=
      ask_eq script clock ⟨after, left, turn.before⟩ (d.absorb script scene)
    · rw [hask] at hwaiting
      cases hwaiting
    · rw [hask] at hwaiting
      obtain rfl := Option.some.inj hwaiting
      exact .inr ⟨d, turn, _, scene, h, hrun, (carryOn_eq clock turn.before hrun).symm⟩
  | @rest d turn duration left after scene h hrun =>
    obtain rfl := Option.some.inj hwaiting
    exact .inr ⟨d, turn, _, scene, h, hrun, (carryOn_eq clock turn.before hrun).symm⟩

/-- A call lets a turn wait that has waited before, at the same location. -/
theorem Calls.suspended {c c' : Conversation σ} (h : Calls script c c') {turn : Suspended}
    (hturn : c'.phase.suspended? = some turn) :
    c.phase.suspended? = some turn ∧ c'.head = c.head := by
  cases h with
  | start h =>
    obtain ⟨-, news, rfl, -⟩ := start_eq h
    cases hturn
  | input text h =>
    obtain ⟨-, news, rfl, -⟩ := input_eq h
    exact ⟨hturn, rfl⟩
  | navigate target h =>
    obtain ⟨hoff, head, rfl⟩ := navigate_eq h
    have hphase : c.phase.suspended? = some turn := hturn
    rw [hoff] at hphase
    cases hphase
  | cancel =>
    rcases cancel_eq c with hcancel | ⟨-, hcancel⟩ | hcancel <;> rw [hcancel] at hturn ⊢
    · exact ⟨hturn, rfl⟩
    · cases hturn
    · exact ⟨hturn, rfl⟩
  | markPaused hoff =>
    obtain ⟨news, hstatus, -⟩ := setStatus_eq c .paused
    rw [Conversation.markPaused, hstatus] at hturn ⊢
    exact ⟨hturn, rfl⟩
  | exit => exact ⟨hturn, rfl⟩

/-! ### Every state -/

/-- **Every state that comes about has the invariants.** -/
theorem Reachable.sound {c : Conversation σ} (h : Reachable script c) : Sound script c := by
  induction h with
  | initial store world => exact .of_free (fun _ => rfl) rfl
  | loop _ h ih => exact h.sound ih
  | call _ h ih => exact h.sound ih
  | write _ h ih =>
    obtain ⟨store, rfl⟩ := setVariable_eq h
    exact ⟨ih.off, ih.within, ih.requested, ih.asked⟩

end Conversation

end Dialogue
