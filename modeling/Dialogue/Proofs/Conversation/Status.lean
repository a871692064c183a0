import Dialogue.Proofs.Conversation.Inbox
import Dialogue.Proofs.Conversation.News
import Mathlib.Data.List.Chain
/-!
# What the host is told of the status

The status changes in a few ways only, and the host is told of each change once. While the loop runs
and has nothing to do, the status tells what it waits for: the user, if and only if an input would be
received, and else the end of a delay.

## Main definitions

- `Status.mayBecome` — the changes that there are
- `Conversation.statuses` — what the host was told
- `Conversation.Candid` — what the host was told is true
- `Conversation.Attends` — the status and what the loop waits for

## Main statements

- `Conversation.Reachable.candid`, `Conversation.Reachable.attends` — every state
- `Conversation.status_truthful`
-/

namespace Dialogue

variable {σ : Type} {script : Script σ} {clock : Nat}

/-- Whether a status may be followed by another one. -/
def Status.mayBecome : Status → Status → Bool
  | .paused, .busy => true
  | .busy, .waitingInput => true
  | .waitingInput, .busy => true
  | .busy, .paused => true
  | .waitingInput, .paused => true
  | _, _ => false

namespace Status

theorem mayBecome_busy {status : Status} (h : status ≠ .busy) : status.mayBecome .busy := by
  cases status <;> first | rfl | exact absurd rfl h

theorem mayBecome_paused {status : Status} (h : status ≠ .paused) : status.mayBecome .paused := by
  cases status <;> first | rfl | exact absurd rfl h

/-- Only the loop waits for the user, and it is busy before. -/
theorem mayBecome_waitingInput {status : Status} (hpaused : status ≠ .paused)
    (h : status ≠ .waitingInput) : status.mayBecome .waitingInput := by
  cases status with
  | busy => rfl
  | paused => exact absurd rfl hpaused
  | waitingInput => exact absurd rfl h

end Status

/-- The status that an event tells of. -/
def Event.status? : Event → Option Status
  | .status told => some told
  | _ => none

/-- Nothing is told of the status. -/
def Event.TellsNoStatus (event : Event) : Prop := event.status? = none

theorem Event.holdsOfEnds_tellsNoStatus : Event.HoldsOfEnds Event.TellsNoStatus :=
  ⟨fun _ => rfl, fun _ _ _ _ => rfl, fun _ => rfl, fun _ _ => rfl⟩

namespace Conversation

variable {c c' : Conversation σ}

/-- The statuses that the host was told of. -/
def statuses (c : Conversation σ) : List Status := c.events.toList.filterMap Event.status?

/-- What the host was told of the status is true: each time it was another one, which may follow, and
the last time it was the one that is. -/
structure Candid (c : Conversation σ) : Prop where
  chain : List.IsChain (fun s t => s.mayBecome t) (.paused :: c.statuses)
  last : c.statuses.getLastD .paused = c.status

namespace Candid

/-- Only the events that tell of a status matter. -/
theorem of_adds (h : Candid c) (hadds : Adds Event.TellsNoStatus c c')
    (hstatus : c'.status = c.status) : Candid c' := by
  obtain ⟨news, hevents, hnews⟩ := hadds
  have hsame : c'.statuses = c.statuses := by
    rw [statuses, statuses, hevents, Array.toList_append, List.filterMap_append,
      Event.filterMap_eq_nil hnews, List.append_nil]
  exact ⟨hsame ▸ h.chain, by rw [hsame, hstatus, h.last]⟩

theorem congr (h : Candid c) (hevents : c'.events = c.events) (hstatus : c'.status = c.status) :
    Candid c' :=
  h.of_adds (.of_events hevents) hstatus

theorem emit (h : Candid c) {event : Event} (hevent : event.TellsNoStatus) :
    Candid (c.emit event) :=
  h.of_adds (.emit c hevent) rfl

/-- **A change of the status is told once**, and it is one of those that there are. -/
theorem setStatus (h : Candid c) {status : Status}
    (hmay : c.status ≠ status → c.status.mayBecome status) : Candid (c.setStatus status) := by
  unfold Conversation.setStatus
  split
  · exact h
  · next hother =>
    -- The chain grows at its end, where the status before is.
    have htold : statuses ({ c with status }.emit (.status status)) = c.statuses ++ [status] := by
      simp [statuses, Conversation.emit, Event.status?]
    refine ⟨?_, by rw [htold, List.getLastD_concat]; rfl⟩
    have hlast : (Status.paused :: c.statuses).getLast? = some c.status := by
      rw [List.getLast?_cons, ← h.last, List.getLastD_eq_getLast?]
    rw [htold, ← List.cons_append]
    refine List.isChain_append.2 ⟨h.chain, List.isChain_singleton _, fun s hs t ht => ?_⟩
    obtain rfl := Option.some.inj (hlast.symm.trans hs)
    obtain rfl : status = t := by simpa using ht
    exact hmay hother

theorem setBusy (h : Candid c) : Candid (c.setStatus .busy) :=
  h.setStatus Status.mayBecome_busy

theorem setPaused (h : Candid c) : Candid (c.setStatus .paused) :=
  h.setStatus Status.mayBecome_paused

/-- Handing control back to a user who is waited for. -/
theorem suspend (h : Candid c) (hrunning : c.status ≠ .paused) :
    Candid (c.suspend .waitingInput) :=
  setStatus (h.congr rfl rfl : Candid { c with yields := c.yields + 1 })
    (Status.mayBecome_waitingInput hrunning)

/-! ### The parts of a small step -/

theorem received (h : Candid c) (text : String) : Candid (c.received script text) := by
  have hbusy := h.setBusy
  unfold Conversation.received
  refine emit ?_ rfl
  exact hbusy.congr rfl rfl

/-- What a turn has told is no status. -/
theorem absorb (h : Candid c) (scene : Scene σ) : Candid (c.absorb script scene) :=
  h.of_adds (.absorb script (fun _ => rfl) c fun _ _ => rfl) (by rw [absorb_eq])

/-- The end of a turn is no change of the status. -/
theorem finish (h : Candid c) (before : Option Json) {turn : Turn} (hturn : turn.interrupted = none)
    (fault : Option Fault) : Candid (c.finish script before turn fault) := by
  obtain ⟨head, outputs, talk, news, hfinish, -⟩ :=
    finish_of_completed script before hturn fault c
  refine h.of_adds ?_ (by rw [hfinish])
  exact .finish script Event.holdsOfEnds_tellsNoStatus before hturn c fun _ _ => rfl

theorem detour (h : Candid c) (location : Location) : Candid (c.detour script location) := by
  obtain ⟨head, news, hdetour, -⟩ := detour_eq script c location
  exact h.of_adds (.detour script (fun _ _ => rfl) c location) (by rw [hdetour])

theorem goIdle (h : Candid c) {turn : Suspended} (hturn : turn.turn.interrupted = none) :
    Candid (c.goIdle script turn) := by
  obtain ⟨step, hidle | hidle⟩ := goIdle_eq_emit script hturn c <;> rw [hidle]
  · exact (h.emit rfl : Candid (c.emit (.idle turn.turn.location step))).congr rfl rfl
  · have hbusy : Candid ((c.emit (.idle turn.turn.location step)).setStatus .busy) :=
      setBusy (h.emit rfl)
    have hready : Candid { (c.emit (.idle turn.turn.location step)).setStatus .busy with
      phase := .ready } := hbusy.congr rfl rfl
    exact (hready.detour turn.turn.location).emit rfl

theorem enter (h : Candid c) (text : String) : Candid (c.enter script text) := by
  obtain ⟨head, location, freeSteps, news, henter, -⟩ := enter_eq script text c
  refine h.of_adds ?_ (by rw [henter])
  exact .enter script Event.holdsOfEnds_tellsNoStatus (fun _ => rfl) text c

theorem ask (h : Candid c) (hrunning : c.status ≠ .paused) (turn : Suspended) :
    Candid (c.ask script clock turn) := by
  have hsuspend := h.suspend hrunning
  unfold Conversation.ask
  dsimp only
  split
  · exact hsuspend.congr rfl rfl
  · exact hsuspend.congr rfl rfl
  · split <;> exact hsuspend.congr rfl rfl

end Candid

/-! ### The status and the wait of the loop -/

/-- While the loop is at a wait the user is waited for, or has been answered; and a user who is waited
for finds the loop at a wait, unless it has been told to end or broke down. -/
structure Attends (c : Conversation σ) : Prop where
  waiting : c.phase.isWaiting → c.status = .waitingInput ∨ c.queue ≠ []
  heeded : c.status = .waitingInput → c.Listens ∨ c.phase = .broken ∨ c.phase = .off

/-- A status that does not wait for the user, away from the waits. -/
theorem Attends.of_busy (hphase : c.phase.isWaiting = false) (hstatus : c.status ≠ .waitingInput) :
    Attends c where
  waiting h := by rw [hphase] at h; cases h
  heeded h := absurd h hstatus

/-- The loop takes a step only when the user is not waited for. -/
theorem Attends.status_ne (h : Attends c) (hphase : c.phase = .ready)
    (hcancelled : c.cancelled = false) : c.status ≠ .waitingInput := by
  intro hstatus
  rcases h.heeded hstatus with hlistens | hbroken | hoff
  · exact not_listens_of_ready hphase hcancelled hlistens
  · cases hphase.symm.trans hbroken
  · cases hphase.symm.trans hoff

/-- **A turn is carried on while the conversation is busy.** -/
theorem Resumes.status_eq_busy {d : Conversation σ} {turn : Suspended}
    (h : Resumes script clock c turn d) (hsound : Sound script c) (hc : Attends c) :
    d.status = .busy := by
  have hpaused := h.status_ne_paused hsound
  have hwaiting : d.status ≠ .waitingInput := by
    cases h with
    | begin hphase hcancelled => exact hc.status_ne hphase hcancelled
    | @answer turn deadline text rest hphase hqueue =>
      obtain ⟨inputs, news, hreceived, -⟩ := received_eq script { c with queue := rest } text
      rw [hreceived]
      exact (by cases ·)
    | wake hphase htime =>
      intro hstatus
      rcases hc.heeded hstatus with hlistens | hbroken | hoff
      · simp [Listens, hphase, Phase.isWaiting] at hlistens
      · cases hphase.symm.trans hbroken
      · cases hphase.symm.trans hoff
  cases hstatus : d.status with
  | busy => rfl
  | paused => exact absurd hstatus hpaused
  | waitingInput => exact absurd hstatus hwaiting

/-- **Small steps keep the status in agreement with the wait of the loop.** -/
theorem Advances.attends {label : Option Turn} (h : Advances script clock c label c')
    (hsound : Sound script c) (hc : Attends c) : Attends c' := by
  cases h with
  | stop hphase hcancelled =>
    obtain ⟨news, hend, -⟩ := endLoop_eq c
    rw [hend]
    exact .of_busy rfl (by cases ·)
  | wait hphase hcancelled hhead =>
    obtain ⟨news, hsuspend, -⟩ := suspend_eq c .waitingInput
    rw [hsuspend]
    exact ⟨fun _ => .inl rfl, fun _ => .inl (.inl rfl)⟩
  | lost hphase hcancelled hhead hstep =>
    exact .of_busy (congrArg Phase.isWaiting hphase) (hc.status_ne hphase hcancelled)
  | freefall hphase hcancelled hhead hstep hfall =>
    exact .of_busy (congrArg Phase.isWaiting hphase) (hc.status_ne hphase hcancelled)
  | @enter text rest hphase hqueue =>
    obtain ⟨head, location, freeSteps, inputs, news, henter, -⟩ :=
      enter_received_eq script text { c with queue := rest }
    rw [henter]
    exact .of_busy rfl (by cases ·)
  | @idle turn deadline hphase hdeadline =>
    have hturn : c.phase.suspended? = some turn := Phase.suspended?_of_asking hphase
    obtain ⟨head, location, status, freeSteps, news, hidle, rfl, -⟩ | ⟨event, hidle, -⟩ :=
      goIdle_eq script (hsound.within turn hturn).interrupted c
    · rw [hidle]
      exact .of_busy rfl (by cases ·)
    · rw [hidle]
      exact ⟨fun _ => hc.waiting (by rw [hphase]; rfl), fun _ => .inl (.inl rfl)⟩
  | @abandon turn hphase hcancelled =>
    rw [abandon_eq_emit script (hsound.within turn hphase).interrupted]
    exact ⟨(by cases ·), fun _ => .inl (.inr ⟨rfl, hcancelled⟩)⟩
  | @complete d turn fault after scene h hrun =>
    have hbusy := h.status_eq_busy hsound hc
    obtain ⟨head, outputs, talk, news, hfinish, -⟩ := finish_of_completed script turn.before
      (h.within_run hsound hrun).interrupted fault (d.absorb script scene)
    rw [hfinish, absorb_eq]
    exact .of_busy rfl (by rw [hbusy]; exact (by cases ·))
  | @ask d turn left after scene h hrun =>
    obtain ⟨phase, news, hask, hphase, -⟩ :=
      ask_eq script clock ⟨after, left, turn.before⟩ (d.absorb script scene)
    rw [hask]
    refine ⟨fun _ => .inl rfl, fun _ => ?_⟩
    rcases hphase with rfl | ⟨deadline, rfl⟩
    · exact .inr (.inl rfl)
    · exact .inl (.inl rfl)
  | @rest d turn duration left after scene h hrun =>
    have hbusy := h.status_eq_busy hsound hc
    rw [absorb_eq]
    exact .of_busy rfl (by rw [hbusy]; exact (by cases ·))

/-- Calls of the host keep it so. -/
theorem Calls.attends (h : Calls script c c') (hc : Attends c) : Attends c' := by
  cases h with
  | start h =>
    obtain ⟨-, news, rfl, -⟩ := start_eq h
    exact .of_busy rfl (by cases ·)
  | input text h =>
    obtain ⟨-, news, rfl, -⟩ := input_eq h
    exact ⟨fun _ => .inr (by simp), (by cases ·)⟩
  | navigate target h =>
    obtain ⟨hoff, head, rfl⟩ := navigate_eq h
    exact ⟨hc.waiting, fun _ => .inr (.inr hoff)⟩
  | cancel =>
    rcases cancel_eq c with hcancel | ⟨-, hcancel⟩ | hcancel <;> rw [hcancel]
    · exact hc
    · exact ⟨(by cases ·), fun _ => .inr (.inr rfl)⟩
    · exact ⟨hc.waiting, fun h => (hc.heeded h).imp_left (Or.imp_right fun h => ⟨h.1, rfl⟩)⟩
  | markPaused hoff =>
    obtain ⟨news, hstatus, -⟩ := setStatus_eq c .paused
    rw [Conversation.markPaused, hstatus]
    exact .of_busy (congrArg Phase.isWaiting hoff) (by cases ·)
  | exit => exact ⟨hc.waiting, hc.heeded⟩

/-- **In every state** the status and the wait of the loop agree. -/
theorem Reachable.attends (h : Reachable script c) : Attends c := by
  induction h with
  | initial store world => exact .of_busy rfl (by cases ·)
  | loop hc h ih => exact h.attends hc.sound ih
  | call hc h ih => exact h.attends ih
  | write hc h ih =>
    obtain ⟨store, rfl⟩ := setVariable_eq h
    exact ⟨ih.waiting, ih.heeded⟩

/-! ### What the host is told -/

/-- Taking up a turn changes the status at most to busy. -/
theorem Resumes.candid {d : Conversation σ} {turn : Suspended} (h : Resumes script clock c turn d)
    (hc : Candid c) : Candid d := by
  cases h with
  | begin => exact hc
  | @answer turn deadline text rest =>
    have hrest : Candid { c with queue := rest } := hc.congr rfl rfl
    exact hrest.received text
  | wake => exact hc

/-- **Small steps tell the truth.** -/
theorem Advances.candid {label : Option Turn} (h : Advances script clock c label c')
    (hsound : Sound script c) (hattends : Attends c) (hc : Candid c) : Candid c' := by
  cases h with
  | stop hphase hcancelled =>
    refine Candid.setPaused ?_
    exact hc.congr rfl rfl
  | wait hphase hcancelled hhead =>
    have hrunning : c.status ≠ .paused := fun hpaused => by
      cases hphase.symm.trans (hsound.off hpaused)
    exact (hc.suspend hrunning).congr rfl rfl
  | @lost location hphase hcancelled hhead hstep =>
    exact hc.of_adds (.emit c rfl) rfl
  | @freefall location step hphase hcancelled hhead hstep hfall =>
    exact hc.of_adds (.emit c rfl) rfl
  | @enter text rest hphase hqueue =>
    have hrest : Candid { c with queue := rest } := hc.congr rfl rfl
    exact (hrest.received text).enter text
  | @idle turn deadline hphase hdeadline =>
    have hturn : c.phase.suspended? = some turn := Phase.suspended?_of_asking hphase
    exact hc.goIdle (hsound.within turn hturn).interrupted
  | @abandon turn hphase hcancelled =>
    rw [abandon_eq_emit script (hsound.within turn hphase).interrupted]
    exact hc.of_adds (.emit { c with phase := .ready } rfl) rfl
  | complete h hrun =>
    exact ((h.candid hc).absorb _).finish _ (h.within_run hsound hrun).interrupted _
  | ask h hrun =>
    have hbusy := h.status_eq_busy hsound hattends
    refine ((h.candid hc).absorb _).ask ?_ _
    rw [absorb_eq]
    exact hbusy ▸ (by cases ·)
  | rest h hrun => exact ((h.candid hc).absorb _).congr rfl rfl

/-- Calls of the host tell the truth. -/
theorem Calls.candid (h : Calls script c c') (hc : Candid c) : Candid c' := by
  cases h with
  | start h =>
    unfold Conversation.start at h
    split at h
    · cases h
    · obtain rfl := Except.ok.inj h
      exact hc.setBusy.congr rfl rfl
  | input text h =>
    unfold Conversation.input at h
    split at h
    · obtain rfl := Except.ok.inj h
      exact hc.setBusy.congr rfl rfl
    · cases h
  | navigate target h =>
    obtain ⟨-, head, rfl⟩ := navigate_eq h
    exact hc.congr rfl rfl
  | cancel =>
    rcases cancel_eq c with hcancel | ⟨-, hcancel⟩ | hcancel <;> rw [hcancel]
    · exact hc
    · exact hc.congr rfl rfl
    · exact hc.congr rfl rfl
  | markPaused => exact hc.setPaused
  | exit => exact hc.emit rfl

/-- **In every state** what the host was told of the status is true. -/
theorem Reachable.candid (h : Reachable script c) : Candid c := by
  induction h with
  | initial store world => exact ⟨List.isChain_singleton _, rfl⟩
  | loop hc h ih => exact h.candid hc.sound hc.attends ih
  | call hc h ih => exact h.candid ih
  | write hc h ih =>
    obtain ⟨store, rfl⟩ := setVariable_eq h
    exact ih.congr rfl rfl

/-! ### The loop with nothing to do -/

/-- The loop runs, and there is nothing for it to do at this instant. -/
structure Awaits (script : Script σ) (clock : Nat) (c : Conversation σ) : Prop where
  off : c.phase ≠ .off
  broken : c.phase ≠ .broken
  nothing : c.advance? script clock = none

namespace Awaits

/-- A loop that has been told to end has that to do. -/
theorem not_cancelled (h : Awaits script clock c) : c.cancelled = false := by
  cases hcancelled : c.cancelled with
  | false => rfl
  | true =>
    have hnothing := h.nothing
    cases hphase : c.phase with
    | off => exact absurd hphase h.off
    | broken => exact absurd hphase h.broken
    | _ => simp [advance?, hphase, hcancelled] at hnothing

/-- A loop with nothing to do is at a wait without an input, or in a delay. -/
theorem waits (h : Awaits script clock c) :
    c.phase.isWaiting ∧ c.queue = [] ∨ ∃ turn wake, c.phase = .resting turn wake := by
  have hnothing := h.nothing
  have hcancelled := h.not_cancelled
  cases hphase : c.phase with
  | off => exact absurd hphase h.off
  | broken => exact absurd hphase h.broken
  | ready => cases hhead : c.head <;> simp [advance?, hphase, hcancelled, hhead] at hnothing
  | entering =>
    cases hqueue : c.queue with
    | nil => exact .inl ⟨rfl, rfl⟩
    | cons text rest => simp [advance?, hphase, hcancelled, hqueue] at hnothing
  | asking turn deadline =>
    cases hqueue : c.queue with
    | nil => exact .inl ⟨rfl, rfl⟩
    | cons text rest => simp [advance?, hphase, hcancelled, hqueue] at hnothing
  | resting turn wake => exact .inr ⟨turn, wake, rfl⟩

/-- Its time has not come. -/
theorem lt_alarm (h : Awaits script clock c) {time : Nat} (halarm : c.alarm? = some time) :
    clock < time := by
  have hnothing := h.nothing
  have hcancelled := h.not_cancelled
  by_contra hdue
  have hle : time ≤ clock := Nat.le_of_not_lt hdue
  cases hphase : c.phase with
  | asking turn deadline =>
    obtain rfl : deadline = some time := by simpa [alarm?, hphase] using halarm
    cases hqueue : c.queue <;> simp [advance?, hphase, hcancelled, hqueue, hle] at hnothing
  | resting turn wake =>
    obtain rfl : wake = time := by simpa [alarm?, hphase] using halarm
    simp [advance?, hphase, hcancelled, hle] at hnothing
  | _ => simp [alarm?, hphase] at halarm

end Awaits

/-- A turn that is carried on tells of no further input and leaves the queue alone. -/
theorem carryOn_inputs (script : Script σ) (clock : Nat) (before : Option Json)
    (left : List Directive) (turn : Turn) (h : turn.interrupted = none) (c : Conversation σ) :
    (c.carryOn script clock before left turn).heard = c.heard ∧
      (c.carryOn script clock before left turn).queue = c.queue := by
  obtain ⟨progress, after, scene, hrun⟩ : ∃ progress after scene,
      turn.run script.host left { store := c.store, world := c.world } = (progress, after, scene) :=
    ⟨_, _, _, rfl⟩
  have hafter : after.interrupted = none := by
    have hkeeps := Turn.run_keeps script.host left turn { store := c.store, world := c.world }
    rw [hrun] at hkeeps
    exact hkeeps.interrupted.trans h
  have hheard := heard_absorb script c scene
  rw [carryOn_eq clock before hrun]
  cases progress with
  | done fault =>
    refine ⟨(heard_finish script before hafter fault _).trans hheard, ?_⟩
    obtain ⟨head, outputs, talk, news, hfinish, -⟩ :=
      finish_of_completed script before hafter fault (c.absorb script scene)
    dsimp only
    rw [hfinish, absorb_eq]
  | asking left =>
    obtain ⟨phase, news, hask, -, hmute⟩ :=
      ask_eq script clock ⟨after, left, before⟩ (c.absorb script scene)
    refine ⟨(heard_of_mute (congrArg events hask) hmute).trans hheard, ?_⟩
    dsimp only
    rw [hask, absorb_eq]
  | resting duration left => exact ⟨hheard, by rw [absorb_eq]⟩

theorem queue_received (c : Conversation σ) (text : String) :
    (c.received script text).queue = c.queue := by
  obtain ⟨inputs, told, hreceived, -⟩ := received_eq script c text
  rw [hreceived]

/-- **A wait receives the input at the front of the queue**, in the next small step. -/
theorem advance?_of_queue (hsound : Sound script c) (hcancelled : c.cancelled = false)
    (hwaiting : c.phase.isWaiting) {text : String} {rest : List String}
    (hqueue : c.queue = text :: rest) (clock : Nat) :
    ∃ d, c.advance? script clock = some d ∧ d.heard = c.heard ++ [text] ∧ d.queue = rest := by
  have hheard := heard_received script { c with queue := rest } text
  have hrest : (({ c with queue := rest } : Conversation σ).received script text).queue = rest :=
    queue_received _ text
  cases hphase : c.phase with
  | entering =>
    have hnext : c.advance? script clock =
        some (({ c with queue := rest }.received script text).enter script text) := by
      simp [advance?, hphase, hcancelled, hqueue]
    obtain ⟨head, location, freeSteps, news, henter, hmute⟩ :=
      enter_eq script text (received script { c with queue := rest } text)
    refine ⟨_, hnext, ?_, ?_⟩
    · exact (heard_of_mute (congrArg events henter) hmute).trans hheard
    · exact (congrArg queue henter).trans hrest
  | asking turn deadline =>
    have hturn := (hsound.within turn (Phase.suspended?_of_asking hphase)).interrupted
    obtain ⟨hsame, hkept⟩ := carryOn_inputs script clock turn.before turn.left
      (turn.turn.receive text) hturn (received script { c with queue := rest } text)
    have hnext : c.advance? script clock = some (({ c with queue := rest }.received script
        text).carryOn script clock turn.before turn.left (turn.turn.receive text)) := by
      simp [advance?, hphase, hcancelled, hqueue]
    exact ⟨_, hnext, hsame.trans hheard, hkept.trans hrest⟩
  | _ => rw [hphase] at hwaiting; cases hwaiting

/-- **The status tells the truth.** In every state the host was told of each change of the status and
of nothing else, each change is one of five, and the last one led to the status that is. While the
loop runs and has nothing to do, the user is waited for if and only if the loop is at a wait, and
else a delay has to pass; so an input is accepted if and only if a wait is there for it, and the
wait receives it next. -/
theorem status_truthful (hc : Reachable script c) :
    List.IsChain (fun s t => s.mayBecome t) (.paused :: c.statuses) ∧
      c.statuses.getLastD .paused = c.status ∧
      ∀ clock, Awaits script clock c →
        (c.status = .waitingInput ↔ c.phase.isWaiting) ∧
        (c.status = .busy ↔ ∃ turn wake, c.phase = .resting turn wake) ∧
        (∀ text, (∃ c', c.input text = .ok c') ↔ c.phase.isWaiting) ∧
        ∀ text c', c.input text = .ok c' → ∀ now, ∃ d, c'.advance? script now = some d ∧
          d.heard = c.heard ++ [text] ∧ d.queue = [] := by
  obtain ⟨hchain, hlast⟩ := hc.candid
  refine ⟨hchain, hlast, fun clock hawaits => ?_⟩
  have hcancelled := hawaits.not_cancelled
  have hwaits := hawaits.waits
  have hattends := hc.attends
  have hwaiting : c.status = .waitingInput ↔ c.phase.isWaiting := by
    constructor
    · intro hstatus
      rcases hattends.heeded hstatus with (hphase | ⟨-, htold⟩) | hbroken | hoff
      · exact hphase
      · rw [hcancelled] at htold
        cases htold
      · exact absurd hbroken hawaits.broken
      · exact absurd hoff hawaits.off
    · intro hphase
      rcases hwaits with ⟨-, hqueue⟩ | ⟨turn, wake, hresting⟩
      · exact (hattends.waiting hphase).resolve_right (absurd hqueue)
      · rw [hresting] at hphase
        cases hphase
  have haccepts : ∀ text, (∃ c', c.input text = .ok c') ↔ c.phase.isWaiting := by
    intro text
    rw [← hwaiting]
    constructor
    · rintro ⟨c', h⟩
      exact (input_eq h).1
    · intro hstatus
      exact ⟨_, if_pos hstatus⟩
  refine ⟨hwaiting, ?_, haccepts, fun text c' h now => ?_⟩
  · constructor
    · intro hbusy
      rcases hwaits with ⟨hphase, -⟩ | ⟨turn, wake, hresting⟩
      · cases hbusy.symm.trans (hwaiting.2 hphase)
      · exact ⟨turn, wake, hresting⟩
    · rintro ⟨turn, wake, hresting⟩
      cases hstatus : c.status with
      | busy => rfl
      | paused => exact absurd (hc.sound.off hstatus) hawaits.off
      | waitingInput =>
        have hphase := hwaiting.1 hstatus
        rw [hresting] at hphase
        cases hphase
  · have hphase := (haccepts text).1 ⟨c', h⟩
    have hc' : Reachable script c' := hc.call (.input text h)
    have hempty : c.queue = [] := by
      rcases hwaits with ⟨-, hqueue⟩ | ⟨turn, wake, hresting⟩
      · exact hqueue
      · rw [hresting] at hphase
        cases hphase
    obtain ⟨-, news, rfl, hmute⟩ := input_eq h
    have hqueue : c.queue ++ [text] = text :: [] := by rw [hempty]; rfl
    obtain ⟨d, hnext, hheard, hrest⟩ := advance?_of_queue hc'.sound hcancelled hphase hqueue now
    exact ⟨d, hnext, hheard.trans (congrArg (· ++ [text]) (heard_of_mute rfl hmute)), hrest⟩

theorem status_truthful_asked :
    Reachable doorway asked ∧ Awaits doorway 0 asked ∧
      asked.statuses = [.busy, .waitingInput] ∧ asked.status = .waitingInput ∧
      asked.phase.isWaiting ∧ ∃ c', asked.input "go" = .ok c' := by
  obtain ⟨label, hask⟩ : ∃ label, Advances doorway 0 arriving label asked :=
    advances_of_advance? rfl
  have hc : Reachable doorway asked := .loop (.call (.initial .empty ()) (.start rfl)) hask
  have hwaiting : asked.phase.isWaiting := by decide +kernel
  have hawaits : Awaits doorway 0 asked := by
    refine ⟨fun hoff => ?_, fun hbroken => ?_, Option.isNone_iff_eq_none.1 (by decide +kernel)⟩
    · rw [hoff] at hwaiting
      cases hwaiting
    · rw [hbroken] at hwaiting
      cases hwaiting
  obtain ⟨-, -, hquiet⟩ := status_truthful hc
  obtain ⟨hstatus, -, haccepts, -⟩ := hquiet 0 hawaits
  exact ⟨hc, hawaits, by decide +kernel, hstatus.2 hwaiting, hwaiting, (haccepts "go").2 hwaiting⟩

end Conversation

end Dialogue
