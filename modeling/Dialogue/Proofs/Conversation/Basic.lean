import Dialogue.Conversation.Advance
/-!
# What the parts of a conversation change

Each part of a small step is a conversation with some fields replaced and some events added. A turn
that ends lets the host know with one event; what is said before that event belongs to the turn, and
what comes after it is neither a line nor the end of a turn.

## Main definitions

- `Event.endsTurn`, `Event.line?` — the events that tell of turns and lines
- `Event.isMute` — neither of them
- `Notice.event` — the event that a notice of a turn becomes

## Main statements

- `Conversation.absorb_eq`, `Conversation.ask_eq` — a turn that goes on, or has to wait
- `Conversation.finish_of_completed`, `Conversation.abandon_eq`, `Conversation.goIdle_eq` — a turn
  that ends
-/

namespace Dialogue

namespace Event

/-- Whether the event tells of the end of a turn. -/
def endsTurn : Event → Bool
  | .step .. => true
  | .interrupted .. => true
  | _ => false

/-- The line of the transcript that the event tells of. -/
def line? : Event → Option Line
  | .input text => some ⟨.input, text⟩
  | .output text => some ⟨.output, text⟩
  | _ => none

/-- Whether the event tells of no turn's end and of no line. -/
def isMute (event : Event) : Bool := !event.endsTurn && event.line?.isNone

theorem endsTurn_of_isMute {event : Event} (h : event.isMute) : event.endsTurn = false := by
  cases event <;> simp_all [isMute, endsTurn]

/-- Mute events end no turn. -/
theorem quiet_of_mute {news : Array Event} (h : ∀ e ∈ news, e.isMute) :
    ∀ e ∈ news, e.endsTurn = false :=
  fun e he => endsTurn_of_isMute (h e he)

theorem quiet_append {xs ys : Array Event} (hx : ∀ e ∈ xs, e.endsTurn = false)
    (hy : ∀ e ∈ ys, e.endsTurn = false) : ∀ e ∈ xs ++ ys, e.endsTurn = false := by
  intro e he
  exact (Array.mem_append.1 he).elim (hx e) (hy e)

end Event

/-- The event that lets the host know of a notice. -/
def Notice.event : Notice → Event
  | .printed text => .output text
  | .reported fault => .fault fault

/-- The text that a notice prints. -/
def Notice.text? : Notice → Option String
  | .printed text => some text
  | .reported _ => none

/-- Nothing that a turn says is the end of a turn. -/
@[simp] theorem Notice.endsTurn_event (notice : Notice) : notice.event.endsTurn = false := by
  cases notice <;> rfl

theorem Notice.quiet_events (notices : Array Notice) :
    ∀ e ∈ notices.map Notice.event, e.endsTurn = false := by
  intro e he
  obtain ⟨notice, -, rfl⟩ := Array.mem_map.1 he
  exact notice.endsTurn_event

namespace Conversation

variable {σ : Type}

/-- The status and, where it changes, an event. -/
theorem setStatus_eq (c : Conversation σ) (status : Status) :
    ∃ news : Array Event, c.setStatus status = { c with status, events := c.events ++ news } ∧
      ∀ e ∈ news, e.isMute := by
  unfold setStatus
  split
  · next h => exact ⟨#[], by simp [← h], by simp⟩
  · exact ⟨#[.status status], by simp [emit], by simp [Event.isMute, Event.endsTurn, Event.line?]⟩

/-- What a turn leaves in its scene is taken over, and its notices become events. -/
theorem absorb_eq (script : Script σ) (c : Conversation σ) (scene : Scene σ) :
    c.absorb script scene = { c with
      store := scene.store
      world := scene.world
      events := c.events ++ scene.notices.map Notice.event
      outputs := if script.settings.recordOutputs then
        c.outputs ++ scene.notices.filterMap Notice.text? else c.outputs } := by
  obtain ⟨store, world, ⟨notices⟩⟩ := scene
  rw [absorb, ← Array.foldl_toList]
  have hstep : ∀ start : Conversation σ,
      notices.foldl (fun c notice => match notice with
        | .printed text => c.print script text
        | .reported fault => c.report fault) start = { start with
          events := start.events ++ (notices.map Notice.event).toArray
          outputs := if script.settings.recordOutputs then
            start.outputs ++ (notices.filterMap Notice.text?).toArray else start.outputs } := by
    induction notices with
    | nil => simp
    | cons notice rest ih =>
      intro start
      rw [List.foldl_cons, ih]
      cases notice with
      | printed text =>
        by_cases hrecord : script.settings.recordOutputs <;>
          simp [print, emit, Notice.event, Notice.text?, hrecord]
      | reported fault =>
        by_cases hrecord : script.settings.recordOutputs <;>
          simp [report, emit, Notice.event, Notice.text?, List.filterMap_cons, hrecord]
  refine (hstep _).trans ?_
  simp only [List.map_toArray, List.filterMap_toArray]

/-- Waiting for an answer hands control back; the loop breaks down when the wait is too long to
count. -/
theorem ask_eq (script : Script σ) (clock : Nat) (turn : Suspended) (c : Conversation σ) :
    ∃ phase, ∃ news : Array Event, c.ask script clock turn = { c with
        yields := c.yields + 1, status := .waitingInput, phase, events := c.events ++ news } ∧
      (phase = .broken ∨ ∃ deadline, phase = .asking turn deadline) ∧ ∀ e ∈ news, e.isMute := by
  obtain ⟨news, hstatus, hmute⟩ :=
    setStatus_eq { c with yields := c.yields + 1 } .waitingInput
  unfold ask suspend
  rw [hstatus]
  split
  · exact ⟨_, news, rfl, .inr ⟨_, rfl⟩, hmute⟩
  · exact ⟨_, news, rfl, .inl rfl, hmute⟩
  · split
    · exact ⟨_, news, rfl, .inr ⟨_, rfl⟩, hmute⟩
    · exact ⟨_, news, rfl, .inl rfl, hmute⟩

/-- Handing control back changes the status and counts. -/
theorem suspend_eq (c : Conversation σ) (status : Status) :
    ∃ news : Array Event, c.suspend status = { c with
        yields := c.yields + 1, status, events := c.events ++ news } ∧ ∀ e ∈ news, e.isMute :=
  setStatus_eq { c with yields := c.yields + 1 } status

/-- Following a target moves to it, or to no step with a fault. -/
theorem follow_eq (script : Script σ) (c : Conversation σ) (target : Location) :
    ∃ head, ∃ news : Array Event, c.follow script target = { c with
        head, location := head, events := c.events ++ news } ∧ ∀ e ∈ news, e.isMute := by
  unfold follow
  split
  · next head _ => exact ⟨head, #[], by simp [place], by simp⟩
  · next fault _ =>
    exact ⟨none, #[.fault fault], by simp [place, report, emit],
      by simp [Event.isMute, Event.endsTurn, Event.line?]⟩

/-- Leaving a page lets the host know, and moves on. -/
theorem leavePage_eq (script : Script σ) (c : Conversation σ) (location : Location) :
    ∃ head, ∃ news : Array Event, c.leavePage script location = { c with
        head, location := head, events := c.events ++ news } ∧ ∀ e ∈ news, e.isMute := by
  have hpage : (Event.page location.page).isMute := rfl
  unfold leavePage
  dsimp only
  split
  · exact ⟨none, #[.page location.page], by simp [place, emit], by simpa using hpage⟩
  · obtain ⟨head, news, hfollow, hmute⟩ :=
      follow_eq script (c.emit (.page location.page)) script.entry
    refine ⟨head, #[.page location.page] ++ news, by rw [hfollow]; simp [emit], ?_⟩
    intro e he
    rcases Array.mem_append.1 he with he | he
    · exact Array.mem_singleton.1 he ▸ hpage
    · exact hmute e he

/-- A detour to the idle page writes down where it leads back to. -/
theorem detour_eq (script : Script σ) (c : Conversation σ) (location : Location) :
    ∃ head, ∃ news : Array Event, c.detour script location = { c with
        store := c.store.set returnVariable (.text location.text), freeSteps := 0
        head, location := head, events := c.events ++ news } ∧ ∀ e ∈ news, e.isMute := by
  unfold detour
  dsimp only
  split
  · next head _ => exact ⟨head, #[], by simp [place], by simp⟩
  · next fault _ =>
    exact ⟨c.head, #[.fault fault], by simp [place, report, emit],
      by simp [Event.isMute, Event.endsTurn, Event.line?]⟩

/-- Moving on moves to a location or to none. -/
theorem moveOn_eq (script : Script σ) (c : Conversation σ) (location : Location)
    (target : Option Location) :
    ∃ head, ∃ news : Array Event, c.moveOn script location target = { c with
        head, location := head, events := c.events ++ news } ∧ ∀ e ∈ news, e.isMute := by
  unfold moveOn
  split
  · exact follow_eq script c _
  · exact leavePage_eq script c location

/-- At most one line is printed about an answer that was not taken. -/
theorem printRejection_eq (script : Script σ) (c : Conversation σ) (turn : Turn) (failed : Bool) :
    ∃ outputs, ∃ talk : Array Event, c.printRejection script turn failed = { c with
        outputs, events := c.events ++ talk } ∧ ∀ e ∈ talk, e.endsTurn = false := by
  unfold printRejection
  split
  · next message _ _ =>
    exact ⟨if script.settings.recordOutputs then c.outputs.push message else c.outputs,
      #[.output message], by simp [print, emit], by simp [Event.endsTurn]⟩
  · exact ⟨c.outputs, #[], by simp, by simp⟩

/-- A turn that is completed: it is counted, the host knows, and the conversation moves on. -/
theorem complete_eq (script : Script σ) (before : Option Json) (turn : Turn) (failed : Bool)
    (c : Conversation σ) :
    ∃ head outputs, ∃ talk news : Array Event, c.complete script before turn failed = { c with
        freeSteps := if turn.inputRequested then 0 else c.freeSteps + 1
        head, location := head, outputs
        events := c.events ++ talk ++ #[.step turn.location turn.step (turn.destination failed)
          (c.changes before)] ++ news } ∧
      (∀ e ∈ talk, e.endsTurn = false) ∧ ∀ e ∈ news, e.isMute := by
  obtain ⟨outputs, talk, hspoken, htalk⟩ := printRejection_eq script (c.count turn) turn failed
  unfold complete
  dsimp only
  rw [hspoken]
  obtain ⟨head, news, hmoved, hnews⟩ := moveOn_eq script _ turn.location (turn.destination failed)
  refine ⟨head, outputs, talk, news, hmoved.trans ?_, htalk, hnews⟩
  simp only [emit, count, changes, Array.push_eq_append]

/-- A fault, if there is one, is reported. -/
theorem reportAny_eq (c : Conversation σ) (fault : Option Fault) :
    ∃ news : Array Event, c.reportAny fault = { c with events := c.events ++ news } ∧
      ∀ e ∈ news, e.isMute := by
  unfold reportAny
  split
  · next fault =>
    exact ⟨#[.fault fault], by simp [report, emit],
      by simp [Event.isMute, Event.endsTurn, Event.line?]⟩
  · exact ⟨#[], by simp, by simp⟩

/-- A turn that is over and was not abandoned is completed. -/
theorem finish_of_completed (script : Script σ) (before : Option Json) {turn : Turn}
    (h : turn.interrupted = none) (fault : Option Fault) (c : Conversation σ) :
    ∃ head outputs, ∃ talk news : Array Event, c.finish script before turn fault = { c with
        phase := .ready
        freeSteps := if turn.inputRequested then 0 else c.freeSteps + 1
        head, location := head, outputs
        events := c.events ++ talk ++ #[.step turn.location turn.step
          (turn.destination fault.isSome) (c.changes before)] ++ news } ∧
      (∀ e ∈ talk, e.endsTurn = false) ∧ ∀ e ∈ news, e.isMute := by
  obtain ⟨said, hsaid, hquiet⟩ := reportAny_eq { c with phase := .ready } fault
  unfold finish
  dsimp only
  rw [hsaid, h]
  obtain ⟨head, outputs, talk, news, hcomplete, htalk, hnews⟩ :=
    complete_eq script before turn fault.isSome _
  refine ⟨head, outputs, said ++ talk, news, hcomplete.trans ?_, ?_, hnews⟩
  · simp only [changes, Array.append_assoc]
  · exact Event.quiet_append (Event.quiet_of_mute hquiet) htalk

/-- Giving way to an interruption keeps the conversation, or leads it to the idle page. -/
theorem giveWay_eq (script : Script σ) (c : Conversation σ) (location : Location)
    (reason : Interruption) :
    ∃ head location' store freeSteps, ∃ news : Array Event,
      c.giveWay script location reason = { c with
        head, location := location', store, freeSteps, events := c.events ++ news } ∧
      (reason = .aborted → head = c.head ∧ store = c.store ∧ freeSteps = c.freeSteps) ∧
      (reason = .idle → store = c.store.set returnVariable (.text location.text)) ∧
      ∀ e ∈ news, e.isMute := by
  cases reason with
  | aborted =>
    exact ⟨c.head, c.location, c.store, c.freeSteps, #[], by simp [giveWay], by simp, by simp,
      by simp⟩
  | idle =>
    obtain ⟨head, news, hdetour, hmute⟩ := detour_eq script c location
    exact ⟨head, head, _, _, news, hdetour, by simp, by simp, hmute⟩

/-- A turn that was abandoned lets the host know, after it has given way. -/
theorem finish_of_interrupted (script : Script σ) (before : Option Json) {turn : Turn}
    {reason : Interruption} (h : turn.interrupted = some reason) (c : Conversation σ) :
    ∃ head location store freeSteps, ∃ news : Array Event,
      c.finish script before turn none = { c with
        phase := .ready, head, location, store, freeSteps
        events := c.events ++ news ++ #[.interrupted turn.location reason head
          (before.map (·.diff store.own))] } ∧
      (reason = .aborted → head = c.head ∧ store = c.store ∧ freeSteps = c.freeSteps) ∧
      (reason = .idle → store = c.store.set returnVariable (.text turn.location.text)) ∧
      ∀ e ∈ news, e.isMute := by
  obtain ⟨head, location, store, freeSteps, news, hway, haborted, hidle, hmute⟩ :=
    giveWay_eq script { c with phase := .ready } turn.location reason
  refine ⟨head, location, store, freeSteps, news, ?_, haborted, hidle, hmute⟩
  unfold finish reportAny
  simp only [h, hway, emit, changes, Array.push_eq_append]

/-- Abandoning a turn gives way to what has interrupted it and lets the host know. -/
theorem abandon_eq_emit (script : Script σ) {turn : Suspended} (h : turn.turn.interrupted = none)
    (reason : Interruption) (c : Conversation σ) :
    Conversation.abandon script turn reason c =
      let d := ({ c with phase := .ready } : Conversation σ).giveWay script turn.turn.location reason
      d.emit (.interrupted turn.turn.location reason d.head (d.changes turn.before)) := by
  have hinterrupt : (turn.turn.interrupt reason).interrupted = some reason := by
    simp [Turn.interrupt, h]
  unfold Conversation.abandon finish
  simp only [hinterrupt]
  rfl

/-- The host learns that a user is idle. Then the user is waited for without a deadline, or the turn
is abandoned for a detour. -/
theorem goIdle_eq_emit (script : Script σ) {turn : Suspended} (h : turn.turn.interrupted = none)
    (c : Conversation σ) :
    ∃ step, let idle := c.emit (.idle turn.turn.location step)
      c.goIdle script turn = { idle with phase := .asking turn none } ∨
        c.goIdle script turn =
          let d := detour script { idle.setStatus .busy with phase := .ready } turn.turn.location
          d.emit (.interrupted turn.turn.location .idle d.head (d.changes turn.before)) := by
  refine ⟨(script.document.step? turn.turn.location).getD turn.turn.step, ?_⟩
  unfold goIdle
  dsimp only
  split
  · exact .inr (abandon_eq_emit script h .idle _)
  · exact .inl rfl

/-- An abandoned turn, when nothing else has interrupted it. -/
theorem abandon_eq (script : Script σ) {turn : Suspended} (h : turn.turn.interrupted = none)
    (reason : Interruption) (c : Conversation σ) :
    ∃ head location store freeSteps, ∃ news : Array Event,
      Conversation.abandon script turn reason c = { c with
        phase := .ready, head, location, store, freeSteps
        events := c.events ++ news ++ #[.interrupted turn.turn.location reason head
          (turn.before.map (·.diff store.own))] } ∧
      (reason = .aborted → head = c.head ∧ store = c.store ∧ freeSteps = c.freeSteps) ∧
      (reason = .idle → store = c.store.set returnVariable (.text turn.turn.location.text)) ∧
      ∀ e ∈ news, e.isMute :=
  finish_of_interrupted script turn.before (by simp [Turn.interrupt, h]) c

/-- A user who is idle is led to the idle page, or waited for without a deadline. -/
theorem goIdle_eq (script : Script σ) {turn : Suspended} (h : turn.turn.interrupted = none)
    (c : Conversation σ) :
    (∃ head location status freeSteps, ∃ news : Array Event, c.goIdle script turn = { c with
        phase := .ready, head, location, status, freeSteps
        store := c.store.set returnVariable (.text turn.turn.location.text)
        events := c.events ++ news ++ #[.interrupted turn.turn.location .idle head
          (turn.before.map (·.diff
            (c.store.set returnVariable (.text turn.turn.location.text)).own))] } ∧
      status = .busy ∧ ∀ e ∈ news, e.isMute) ∨
    ∃ event : Event, c.goIdle script turn = { c with
        phase := .asking turn none, events := c.events ++ #[event] } ∧ event.isMute := by
  unfold goIdle
  dsimp only
  split
  · left
    obtain ⟨told, hstatus, htold⟩ := setStatus_eq (c.emit (.idle turn.turn.location
      ((script.document.step? turn.turn.location).getD turn.turn.step))) .busy
    rw [hstatus]
    obtain ⟨head, location, store, freeSteps, news, habandon, -, hidle, hmute⟩ :=
      abandon_eq script h .idle { c with
        status := .busy
        events := (c.emit (.idle turn.turn.location
          ((script.document.step? turn.turn.location).getD turn.turn.step))).events ++ told }
    obtain rfl := hidle rfl
    refine ⟨head, location, .busy, freeSteps, #[.idle turn.turn.location
      ((script.document.step? turn.turn.location).getD turn.turn.step)] ++ told ++ news,
      habandon.trans ?_, rfl, ?_⟩
    · simp only [emit, Array.push_eq_append, Array.append_assoc]
    · intro e he
      rcases Array.mem_append.1 he with he | he
      · rcases Array.mem_append.1 he with he | he
        · rw [Array.mem_singleton.1 he]
          rfl
        · exact htold e he
      · exact hmute e he
  · right
    exact ⟨.idle turn.turn.location
      ((script.document.step? turn.turn.location).getD turn.turn.step), by simp [emit], rfl⟩

/-- Receiving an input makes the conversation busy and adds the line of the input. -/
theorem received_eq (script : Script σ) (c : Conversation σ) (text : String) :
    ∃ inputs, ∃ news : Array Event, c.received script text = { c with
        status := .busy, inputs, events := c.events ++ news ++ #[.input text] } ∧
      ∀ e ∈ news, e.isMute := by
  obtain ⟨news, hstatus, hmute⟩ := setStatus_eq c .busy
  unfold received
  rw [hstatus]
  refine ⟨if script.settings.recordInputs then c.inputs.push text else c.inputs, news, ?_, hmute⟩
  simp only [emit, Array.push_eq_append]

/-- Entering moves to the target of the input, if there is one. -/
theorem enter_eq (script : Script σ) (text : String) (c : Conversation σ) :
    ∃ head location freeSteps, ∃ news : Array Event, c.enter script text = { c with
        phase := .ready, head, location, freeSteps, events := c.events ++ news } ∧
      ∀ e ∈ news, e.isMute := by
  unfold enter
  dsimp only
  split
  · exact ⟨c.head, c.location, c.freeSteps, #[], by simp, by simp⟩
  · split
    · next head _ => exact ⟨head, head, 0, #[], by simp [place], by simp⟩
    · next fault _ =>
      exact ⟨c.head, c.location, c.freeSteps, #[.fault fault], by simp [report, emit],
        by simp [Event.isMute, Event.endsTurn, Event.line?]⟩

/-- An input that is received and enters at its target ends no turn. -/
theorem enter_received_eq (script : Script σ) (text : String) (c : Conversation σ) :
    ∃ head location freeSteps inputs, ∃ news : Array Event,
      (c.received script text).enter script text = { c with
        status := .busy, phase := .ready, head, location, freeSteps, inputs
        events := c.events ++ news } ∧
      ∀ e ∈ news, e.endsTurn = false := by
  obtain ⟨inputs, told, hreceived, htold⟩ := received_eq script c text
  obtain ⟨head, location, freeSteps, news, henter, hnews⟩ :=
    enter_eq script text (c.received script text)
  rw [hreceived] at henter ⊢
  refine ⟨head, location, freeSteps, inputs, told ++ #[.input text] ++ news, ?_, ?_⟩
  · rw [henter]
    simp only [Array.append_assoc]
  · have hinput : ∀ e ∈ #[Event.input text], e.endsTurn = false := by simp [Event.endsTurn]
    exact Event.quiet_append (Event.quiet_append (Event.quiet_of_mute htold) hinput)
      (Event.quiet_of_mute hnews)

/-- What a turn has left is taken over, and then it is over, asks or rests. -/
theorem carryOn_eq {script : Script σ} {c : Conversation σ} {left : List Directive}
    {turn after : Turn} {progress : Progress} {scene : Scene σ} (clock : Nat)
    (before : Option Json) :
    turn.run script.host left { store := c.store, world := c.world } = (progress, after, scene) →
    c.carryOn script clock before left turn = match progress with
      | .done fault => (c.absorb script scene).finish script before after fault
      | .asking left => (c.absorb script scene).ask script clock ⟨after, left, before⟩
      | .resting d left => { c.absorb script scene with
          phase := .resting ⟨after, left, before⟩ (clock + d.wait) } := by
  intro hrun
  cases progress <;> simp only [carryOn, hrun]

/-- Ending the loop hands control back and drops what has not been received. -/
theorem endLoop_eq (c : Conversation σ) :
    ∃ news : Array Event, c.endLoop = { c with
        queue := [], phase := .off, yields := c.yields + 1, status := .paused
        events := c.events ++ news } ∧ ∀ e ∈ news, e.isMute :=
  suspend_eq { c with queue := [], phase := .off } .paused

end Conversation

end Dialogue
