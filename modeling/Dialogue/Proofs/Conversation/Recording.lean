import Dialogue.Proofs.Conversation.Reachable
import Dialogue.Proofs.Conversation.History
import Dialogue.Proofs.Turn.Tidy
/-!
# Recorded turns

While patches are recorded, a turn that waits carries the variables from its beginning. Within a turn
no small step tells of a turn's end; the step that ends a turn tells the difference between the
variables from its beginning and the variables now. A loop that breaks down leaves its turn without
telling of an end.

## Main definitions

- `Conversation.base` — the variables when the current turn began
- `Conversation.Records` — what holds of a conversation whose patches are recorded
- `Conversation.Continues`, `Conversation.Ends` — how far a small step takes a turn

## Main statements

- `Conversation.Advances.records`, `Conversation.Calls.records`
- `Conversation.Advances.continues_or_ends`, `Conversation.Calls.continues`
- `Conversation.Advances.phase_ne_broken` — waits that can be counted
-/

namespace Dialogue

variable {σ : Type} {script : Script σ} {clock : Nat}

/-- Every value of the document is tidy, and so is every value that the host makes. -/
structure Script.Tidy (script : Script σ) : Prop where
  document : script.document.Tidy
  host : script.host.Tidy

/-- The turn and the variables before it are tidy, and the latter are there. -/
structure Suspended.Records (turn : Suspended) : Prop where
  step : turn.turn.step.Tidy
  before : ∃ own : Json, turn.before = some own ∧ own.Tidy

/-- Whether a wait is endless or can be counted. -/
def Patience.isCountable : Patience → Bool
  | .endless => true
  | .uncountable => false
  | .limited d => d.nanoseconds < Conversation.clockBound * 10 ^ 9

namespace Conversation

/-- The variables when the current turn began; between turns, the variables. -/
def base (c : Conversation σ) : Json := (c.phase.suspended?.bind (·.before)).getD c.store.own

/-- What holds of a conversation whose patches are recorded. -/
structure Records (c : Conversation σ) : Prop where
  store : c.store.Tidy
  turn : ∀ turn, c.phase.suspended? = some turn → turn.Records

/-- Between turns only the store matters. -/
theorem Records.of_free {c : Conversation σ} (hstore : c.store.Tidy)
    (hfree : c.phase.suspended? = none) : Records c where
  store := hstore
  turn turn h := by rw [hfree] at h; cases h

theorem base_of_free {c : Conversation σ} (h : c.phase.suspended? = none) :
    c.base = c.store.own := by
  rw [base, h]
  rfl

theorem base_of_suspended {c : Conversation σ} {turn : Suspended} {own : Json}
    (h : c.phase.suspended? = some turn) (hbefore : turn.before = some own) : c.base = own := by
  rw [base, h, Option.bind_some, hbefore]
  rfl

theorem Records.base {c : Conversation σ} (h : Records c) : c.base.Tidy := by
  cases hphase : c.phase.suspended? with
  | none =>
    rw [base_of_free hphase]
    exact h.store.own
  | some turn =>
    obtain ⟨own, hbefore, hown⟩ := (h.turn turn hphase).before
    rw [base_of_suspended hphase hbefore]
    exact hown

/-! ### One small step -/

/-- A turn that is taken up is tidy, with the variables at its beginning. -/
theorem Resumes.records {c d : Conversation σ} {turn : Suspended}
    (h : Resumes script clock c turn d) (hrecord : script.settings.recordPatches)
    (hscript : script.Tidy) (hc : Records c) :
    turn.turn.step.Tidy ∧ turn.before = some c.base := by
  cases h with
  | @begin location step hphase hcancelled hhead hstep hfall =>
    refine ⟨hscript.document location step hstep, ?_⟩
    rw [base_of_free (by rw [hphase]; rfl)]
    exact if_pos hrecord
  | @answer turn deadline text rest hphase hqueue =>
    have hturn : c.phase.suspended? = some turn := by rw [hphase]; rfl
    obtain ⟨hstep, own, hbefore, -⟩ := hc.turn turn hturn
    exact ⟨hstep, by rw [base_of_suspended hturn hbefore]; exact hbefore⟩
  | wake hphase htime =>
    have hturn : c.phase.suspended? = some turn := by rw [hphase]; rfl
    obtain ⟨hstep, own, hbefore, -⟩ := hc.turn turn hturn
    exact ⟨hstep, by rw [base_of_suspended hturn hbefore]; exact hbefore⟩

/-- What a turn that is taken up leaves is tidy. -/
theorem Resumes.records_run {c d : Conversation σ} {turn : Suspended}
    (h : Resumes script clock c turn d) (hrecord : script.settings.recordPatches)
    (hscript : script.Tidy) (hc : Records c) {progress : Progress} {after : Turn} {scene : Scene σ}
    (hrun : turn.turn.run script.host turn.left { store := d.store, world := d.world } =
      (progress, after, scene)) :
    scene.store.Tidy ∧ Suspended.Records ⟨after, progress.left, turn.before⟩ := by
  obtain ⟨hstep, hbefore⟩ := h.records hrecord hscript hc
  have hstore : d.store.Tidy := by
    obtain ⟨status, queue, inputs, news, rfl, -⟩ := h.eq
    exact hc.store
  obtain ⟨hstep', hstore'⟩ := @Turn.run_tidy _ _ hscript.host turn.left turn.turn
    { store := d.store, world := d.world } hstep hstore
  rw [hrun] at hstep' hstore'
  exact ⟨hstore', hstep', c.base, hbefore, hc.base⟩

/-- A small step that no turn's end is told in. Unless the loop breaks down, the turn stays the
same. -/
structure Continues (c c' : Conversation σ) : Prop where
  events : ∃ news : Array Event, c'.events = c.events ++ news ∧ ∀ e ∈ news, e.endsTurn = false
  base : c'.phase ≠ .broken → c'.base = c.base

/-- A small step that ends a turn: the changes since its beginning are told, after its lines. -/
structure Ends (c c' : Conversation σ) : Prop where
  events : ∃ talk news : Array Event, ∃ event : Event,
    c'.events = c.events ++ talk ++ #[event] ++ news ∧ event.endsTurn ∧
      event.patches = c.base.diff c'.store.own ∧
      (∀ e ∈ talk, e.endsTurn = false) ∧ ∀ e ∈ news, e.isMute
  free : c'.phase.suspended? = none

/-- **Small steps keep what is recorded in order.** -/
theorem Advances.records {c c' : Conversation σ} {label : Option Turn}
    (h : Advances script clock c label c') (hrecord : script.settings.recordPatches)
    (hscript : script.Tidy) (hsound : Sound script c) (hc : Records c) : Records c' := by
  cases h with
  | stop hphase hcancelled =>
    obtain ⟨news, hend, -⟩ := endLoop_eq c
    rw [hend]
    exact .of_free hc.store rfl
  | wait hphase hcancelled hhead =>
    obtain ⟨news, hsuspend, -⟩ := suspend_eq c .waitingInput
    rw [hsuspend]
    exact .of_free hc.store rfl
  | lost hphase hcancelled hhead hstep => exact ⟨hc.store, hc.turn⟩
  | freefall hphase hcancelled hhead hstep hfall => exact ⟨hc.store, hc.turn⟩
  | @enter text rest hphase hqueue =>
    obtain ⟨head, location, freeSteps, inputs, news, henter, -⟩ :=
      enter_received_eq script text { c with queue := rest }
    rw [henter]
    exact .of_free hc.store rfl
  | @idle turn deadline hphase hdeadline =>
    have hturn : c.phase.suspended? = some turn := Phase.suspended?_of_asking hphase
    obtain ⟨head, location, status, freeSteps, news, hidle, -⟩ | ⟨event, hidle, -⟩ :=
      goIdle_eq script (hsound.within turn hturn).interrupted c
    · rw [hidle]
      refine .of_free (hc.store.set ?_ _) rfl
      trivial
    · rw [hidle]
      refine ⟨hc.store, fun t ht => ?_⟩
      obtain rfl := Option.some.inj ht
      exact hc.turn turn hturn
  | @abandon turn hphase hcancelled =>
    obtain ⟨head, location, store, freeSteps, news, habandon, hkept, -⟩ :=
      abandon_eq script (hsound.within turn hphase).interrupted .aborted c
    obtain ⟨-, rfl, -⟩ := hkept rfl
    rw [habandon]
    exact .of_free hc.store rfl
  | @complete d turn fault after scene h hrun =>
    obtain ⟨hstore, -⟩ := h.records_run hrecord hscript hc hrun
    obtain ⟨head, outputs, talk, news, hfinish, -⟩ := finish_of_completed script turn.before
      (h.within_run hsound hrun).interrupted fault (d.absorb script scene)
    rw [hfinish, absorb_eq]
    exact .of_free hstore rfl
  | @ask d turn left after scene h hrun =>
    obtain ⟨hstore, hturn⟩ := h.records_run hrecord hscript hc hrun
    rw [absorb_eq]
    obtain ⟨phase, news, hask, rfl | ⟨deadline, rfl⟩, -⟩ :=
      ask_eq script clock ⟨after, left, turn.before⟩ _
    · rw [hask]
      exact .of_free hstore rfl
    · rw [hask]
      refine ⟨hstore, fun t ht => ?_⟩
      obtain rfl := Option.some.inj ht
      exact hturn
  | @rest d turn duration left after scene h hrun =>
    obtain ⟨hstore, hturn⟩ := h.records_run hrecord hscript hc hrun
    rw [absorb_eq]
    refine ⟨hstore, fun t ht => ?_⟩
    obtain rfl := Option.some.inj ht
    exact hturn

/-- A small step between turns. -/
theorem Continues.of_free {c c' : Conversation σ} {news : Array Event}
    (hevents : c'.events = c.events ++ news) (hquiet : ∀ e ∈ news, e.endsTurn = false)
    (hfree : c.phase.suspended? = none) (hfree' : c'.phase.suspended? = none)
    (hstore : c'.store = c.store) : Continues c c' where
  events := ⟨news, hevents, hquiet⟩
  base _ := by rw [base_of_free hfree, base_of_free hfree', hstore]

/-- **One small step.** It is within a turn or between turns, or it ends a turn. -/
theorem Advances.continues_or_ends {c c' : Conversation σ} {label : Option Turn}
    (h : Advances script clock c label c') (hrecord : script.settings.recordPatches)
    (hscript : script.Tidy) (hsound : Sound script c) (hc : Records c) :
    Continues c c' ∨ Ends c c' := by
  cases h with
  | stop hphase hcancelled =>
    obtain ⟨news, hend, hmute⟩ := endLoop_eq c
    rw [hend]
    refine .inl (.of_free rfl (Event.quiet_of_mute hmute) ?_ rfl rfl)
    rcases hphase with hphase | hphase <;> rw [hphase] <;> rfl
  | wait hphase hcancelled hhead =>
    obtain ⟨news, hsuspend, hmute⟩ := suspend_eq c .waitingInput
    rw [hsuspend]
    exact .inl (.of_free rfl (Event.quiet_of_mute hmute)
      (by rw [hphase]; rfl) rfl rfl)
  | @lost location hphase hcancelled hhead hstep =>
    have hfree : c.phase.suspended? = none := by rw [hphase]; rfl
    refine .inl (.of_free Array.push_eq_append ?_ hfree hfree rfl)
    simp [Event.endsTurn]
  | @freefall location step hphase hcancelled hhead hstep hfall =>
    have hfree : c.phase.suspended? = none := by rw [hphase]; rfl
    refine .inl (.of_free Array.push_eq_append ?_ hfree hfree rfl)
    simp [Event.endsTurn]
  | @enter text rest hphase hqueue =>
    obtain ⟨head, location, freeSteps, inputs, news, henter, hquiet⟩ :=
      enter_received_eq script text { c with queue := rest }
    rw [henter]
    exact .inl (.of_free rfl hquiet (by rw [hphase]; rfl) rfl rfl)
  | @idle turn deadline hphase hdeadline =>
    have hturn : c.phase.suspended? = some turn := Phase.suspended?_of_asking hphase
    obtain ⟨own, hbefore, -⟩ := (hc.turn turn hturn).before
    have hbase := base_of_suspended hturn hbefore
    obtain ⟨head, location, status, freeSteps, news, hidle, -, hmute⟩ | ⟨event, hidle, hmute⟩ :=
      goIdle_eq script (hsound.within turn hturn).interrupted c
    · -- The variable that leads back is written before the difference is taken.
      rw [hidle]
      refine .inr ⟨⟨news, #[], _, by rw [Array.append_empty], rfl, ?_, ?_, by simp⟩, rfl⟩
      · rw [hbefore, hbase]
        rfl
      · exact Event.quiet_of_mute hmute
    · rw [hidle]
      refine .inl ⟨⟨#[event], rfl, ?_⟩, fun _ => ?_⟩
      · intro e he
        rw [Array.mem_singleton.1 he]
        exact Event.endsTurn_of_isMute hmute
      · rw [hbase]
        exact base_of_suspended rfl hbefore
  | @abandon turn hphase hcancelled =>
    obtain ⟨own, hbefore, -⟩ := (hc.turn turn hphase).before
    obtain ⟨head, location, store, freeSteps, news, habandon, -, -, hmute⟩ :=
      abandon_eq script (hsound.within turn hphase).interrupted .aborted c
    rw [habandon]
    refine .inr ⟨⟨news, #[], _, by rw [Array.append_empty], rfl, ?_, ?_, by simp⟩, rfl⟩
    · rw [hbefore, base_of_suspended hphase hbefore]
      rfl
    · exact Event.quiet_of_mute hmute
  | @complete d turn fault after scene h hrun =>
    obtain ⟨-, hbefore⟩ := h.records hrecord hscript hc
    have hinterrupted := (h.within_run hsound hrun).interrupted
    obtain ⟨status, queue, inputs, told, rfl, -, htold⟩ := h.eq
    rw [absorb_eq]
    obtain ⟨head, outputs, talk, news, hfinish, htalk, hnews⟩ :=
      finish_of_completed script turn.before hinterrupted fault _
    rw [hfinish]
    refine .inr ⟨⟨told ++ scene.notices.map Notice.event ++ talk, news,
      .step after.location after.step (after.destination fault.isSome)
        (turn.before.map (·.diff scene.store.own)), ?_, rfl, ?_, ?_, hnews⟩, rfl⟩
    · simp only [changes, Array.append_assoc]
    · rw [hbefore]
      rfl
    · exact Event.quiet_append (Event.quiet_append htold (Notice.quiet_events _)) htalk
  | @ask d turn left after scene h hrun =>
    obtain ⟨-, hbefore⟩ := h.records hrecord hscript hc
    obtain ⟨status, queue, inputs, told, rfl, -, htold⟩ := h.eq
    rw [absorb_eq]
    obtain ⟨phase, news, hask, hphase, hmute⟩ :=
      ask_eq script clock ⟨after, left, turn.before⟩ _
    rw [hask]
    refine .inl ⟨⟨told ++ scene.notices.map Notice.event ++ news, ?_, ?_⟩, fun hbroken => ?_⟩
    · simp only [Array.append_assoc]
    · exact Event.quiet_append (Event.quiet_append htold (Notice.quiet_events _))
        (Event.quiet_of_mute hmute)
    · -- A loop that has broken down holds no turn, so the variables from its beginning are gone.
      obtain rfl | ⟨deadline, rfl⟩ := hphase
      · exact absurd rfl hbroken
      · exact base_of_suspended rfl hbefore
  | @rest d turn duration left after scene h hrun =>
    obtain ⟨-, hbefore⟩ := h.records hrecord hscript hc
    obtain ⟨status, queue, inputs, told, rfl, -, htold⟩ := h.eq
    rw [absorb_eq]
    refine .inl ⟨⟨told ++ scene.notices.map Notice.event, ?_, ?_⟩, fun _ => ?_⟩
    · simp only [Array.append_assoc]
    · exact Event.quiet_append htold (Notice.quiet_events _)
    · exact base_of_suspended rfl hbefore

/-- The loop breaks down exactly when the wait for an answer is too long to count. -/
theorem phase_ask (script : Script σ) (clock : Nat) (turn : Suspended) (c : Conversation σ) :
    (c.ask script clock turn).phase = .broken ↔ script.settings.patience.isCountable = false := by
  unfold ask
  dsimp only
  split
  · next h => simp [h, Patience.isCountable]
  · next h => simp [h, Patience.isCountable]
  · next d h => split <;> simp_all [Patience.isCountable]

/-- **A loop whose waits can be counted does not break down.** -/
theorem Advances.phase_ne_broken {c c' : Conversation σ} {label : Option Turn}
    (h : Advances script clock c label c') (hsound : Sound script c)
    (hcountable : script.settings.patience.isCountable) : c'.phase ≠ .broken := by
  cases h with
  | stop hphase hcancelled =>
    obtain ⟨news, hend, -⟩ := endLoop_eq c
    rw [hend]
    exact (by cases ·)
  | wait hphase hcancelled hhead => exact (by cases ·)
  | lost hphase hcancelled hhead hstep => exact fun hbroken => by cases hphase.symm.trans hbroken
  | freefall hphase hcancelled hhead hstep hfall =>
    exact fun hbroken => by cases hphase.symm.trans hbroken
  | @enter text rest hphase hqueue =>
    obtain ⟨head, location, freeSteps, inputs, news, henter, -⟩ :=
      enter_received_eq script text { c with queue := rest }
    rw [henter]
    exact (by cases ·)
  | @idle turn deadline hphase hdeadline =>
    have hwithin := hsound.within turn (Phase.suspended?_of_asking hphase)
    obtain ⟨head, location, status, freeSteps, news, hidle, -⟩ | ⟨event, hidle, -⟩ :=
      goIdle_eq script hwithin.interrupted c
    · rw [hidle]
      exact (by cases ·)
    · rw [hidle]
      exact (by cases ·)
  | @abandon turn hphase hcancelled =>
    obtain ⟨head, location, store, freeSteps, news, habandon, -⟩ :=
      abandon_eq script (hsound.within turn hphase).interrupted .aborted c
    rw [habandon]
    exact (by cases ·)
  | @complete d turn fault after scene h hrun =>
    obtain ⟨head, outputs, talk, news, hfinish, -⟩ := finish_of_completed script turn.before
      (h.within_run hsound hrun).interrupted fault (d.absorb script scene)
    rw [hfinish]
    exact (by cases ·)
  | ask h hrun =>
    rw [ne_eq, phase_ask, hcountable]
    exact (by cases ·)
  | rest h hrun => exact (by cases ·)

/-! ### Calls -/

/-- A call of the host keeps the phase, or starts and ends between turns; the store stays. -/
theorem Calls.keeps {c c' : Conversation σ} (h : Calls script c c') (hsound : Sound script c) :
    c'.phase.suspended? = c.phase.suspended? ∧ c'.store = c.store ∧
      ∃ news : Array Event, c'.events = c.events ++ news ∧ ∀ e ∈ news, e.isMute := by
  have hnone : c.events = c.events ++ #[] := Array.append_empty.symm
  cases h with
  | start h =>
    obtain ⟨hpaused, news, rfl, hmute⟩ := start_eq h
    exact ⟨by rw [hsound.off hpaused]; rfl, rfl, news, rfl, hmute⟩
  | input text h =>
    obtain ⟨-, news, rfl, hmute⟩ := input_eq h
    exact ⟨rfl, rfl, news, rfl, hmute⟩
  | navigate target h =>
    obtain ⟨-, head, rfl⟩ := navigate_eq h
    exact ⟨rfl, rfl, #[], hnone, by simp⟩
  | cancel =>
    rcases cancel_eq c with hcancel | ⟨hbroken, hcancel⟩ | hcancel <;> rw [hcancel]
    · exact ⟨rfl, rfl, #[], hnone, by simp⟩
    · exact ⟨by rw [hbroken]; rfl, rfl, #[], hnone, by simp⟩
    · exact ⟨rfl, rfl, #[], hnone, by simp⟩
  | markPaused hoff =>
    obtain ⟨news, hstatus, hmute⟩ := setStatus_eq c .paused
    rw [Conversation.markPaused, hstatus]
    exact ⟨rfl, rfl, news, rfl, hmute⟩
  | exit =>
    exact ⟨rfl, rfl, #[.exit], Array.push_eq_append,
      by simp [Event.isMute, Event.endsTurn, Event.line?]⟩

/-- **Calls of the host keep what is recorded in order.** -/
theorem Calls.records {c c' : Conversation σ} (h : Calls script c c') (hsound : Sound script c)
    (hc : Records c) : Records c' := by
  obtain ⟨hturn, hstore, -⟩ := h.keeps hsound
  exact ⟨hstore ▸ hc.store, hturn ▸ hc.turn⟩

/-- **Calls of the host end no turn.** -/
theorem Calls.continues {c c' : Conversation σ} (h : Calls script c c') (hsound : Sound script c) :
    Continues c c' ∧ c'.base = c.base := by
  obtain ⟨hturn, hstore, news, hevents, hmute⟩ := h.keeps hsound
  have hbase : c'.base = c.base := by rw [Conversation.base, hturn, hstore, Conversation.base]
  exact ⟨⟨⟨news, hevents, Event.quiet_of_mute hmute⟩, fun _ => hbase⟩, hbase⟩

end Conversation

end Dialogue
