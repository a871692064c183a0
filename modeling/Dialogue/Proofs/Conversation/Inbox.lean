import Dialogue.Proofs.Conversation.Variables
/-!
# What becomes of the inputs

Inputs are accepted at the end of a queue and leave it at its front: a wait of the loop receives
them, or the end of the loop drops them. While a conversation listens, its loop is at a wait or at
the end of one. As long as the loop does not break down, and no user who has answered is taken to be
idle, an input is there for the wait that it was given to alone.

## Main definitions

- `Conversation.deliveries` — what a move hands over
- `Wait`, `Wait.deliveries` — a wait by its outcome, and what is handed over for it
- `Conversation.Hands` — what a move does with the inputs, by cases
- `Conversation.Inbox` — the waits so far, in agreement with the state

## Main statements

- `Conversation.Moves.hands` — every move is one of the cases
- `Conversation.Course.order` — first in, first out
- `Conversation.Hands.inbox` — a move takes the waits further
- `Conversation.inputs_delivered` — the order of the inputs, and the wait that each of them reaches
-/

namespace Dialogue

variable {σ : Type} {script : Script σ} {clock : Nat}

/-- Whether the loop waits for an input. -/
def Phase.isWaiting : Phase → Bool
  | .entering => true
  | .asking .. => true
  | _ => false

/-- What is handed over between the host and the loop. -/
inductive Delivery where
  /-- The loop begins to wait. -/
  | opened
  | accepted (text : String)
  | received (text : String)
  /-- The loop has ended before the input was received. -/
  | discarded (text : String)
  deriving DecidableEq, Repr

namespace Delivery

/-- The input that is accepted. -/
def accepted? : Delivery → Option String
  | .accepted text => some text
  | _ => none

/-- The input that is received. -/
def received? : Delivery → Option String
  | .received text => some text
  | _ => none

/-- The input that is received or dropped. -/
def settled? : Delivery → Option String
  | .received text => some text
  | .discarded text => some text
  | _ => none

/-- An input leaves the queue: an ended loop has dropped it. -/
def leaving : Phase → String → Delivery
  | .off, text => .discarded text
  | _, text => .received text

theorem leaving_of_ne_off {phase : Phase} (h : phase ≠ .off) (text : String) :
    leaving phase text = .received text := by
  cases phase with
  | off => exact absurd rfl h
  | _ => rfl

end Delivery

/-- The input that an event tells of. -/
def Event.input? : Event → Option String
  | .input text => some text
  | _ => none

theorem Event.input?_of_isMute {event : Event} (h : event.isMute) : event.input? = none := by
  cases event with
  | input => cases h
  | _ => rfl

/-- A wait of the loop, by what was given to it and what became of that. -/
inductive Wait where
  | unanswered
  /-- An input was given and is still in the queue. -/
  | held (text : String)
  | received (text : String)
  | discarded (text : String)
  deriving DecidableEq, Repr

namespace Wait

/-- What is handed over for a wait. -/
def deliveries : Wait → List Delivery
  | .unanswered => [.opened]
  | .held text => [.opened, .accepted text]
  | .received text => [.opened, .accepted text, .received text]
  | .discarded text => [.opened, .accepted text, .discarded text]

/-- The input that was given and is still in the queue. -/
def held? : Wait → Option String
  | .held text => some text
  | _ => none

theorem eq_held {wait : Wait} {text : String} (h : wait.held? = some text) : wait = .held text := by
  cases wait with
  | held _ => exact congrArg Wait.held (Option.some.inj h)
  | _ => cases h

end Wait

namespace Conversation

variable {c c' : Conversation σ}

/-- What a move hands over: inputs leave at the front of the queue, inputs are put at its end, and a
wait begins. -/
def deliveries (c c' : Conversation σ) : List Delivery :=
  (c.queue.take (c.queue.length - c'.queue.length)).map (Delivery.leaving c'.phase) ++
    (c'.queue.drop c.queue.length).map Delivery.accepted ++
    if c.yields < c'.yields ∧ c'.status = .waitingInput then [.opened] else []

/-- The inputs that the host was told to be received. -/
def heard (c : Conversation σ) : List String := c.events.toList.filterMap Event.input?

/-- The loop is at a wait, or has been told to end at one. -/
def Listens (c : Conversation σ) : Prop :=
  c.phase.isWaiting ∨ c.phase = .ready ∧ c.cancelled

/-- The loop begins to wait. -/
structure Opens (c c' : Conversation σ) : Prop where
  yields : c.yields < c'.yields
  status : c'.status = .waitingInput
  phase : c'.phase.isWaiting ∨ c'.phase = .broken

/-- The loop does not begin to wait. -/
structure Unopened (c c' : Conversation σ) : Prop where
  yields : c'.yields = c.yields
  status : c'.status = c.status
  phase : c'.phase ≠ .off

/-- What a move does with the inputs. -/
inductive Hands (c c' : Conversation σ) : Prop where
  /-- Nothing is handed over. -/
  | passes (hqueue : c'.queue = c.queue) (hyields : c'.yields = c.yields)
      (hstatus : c'.status = c.status ∨ c'.status ≠ .waitingInput)
      (hlistens : c.Listens → c'.Listens) (hheard : c'.heard = c.heard)
  /-- The user is taken to be idle and led away from a wait. -/
  | detours (hqueue : c'.queue = c.queue) (hyields : c'.yields = c.yields)
      (hstatus : c'.status ≠ .waitingInput) (hdetours : c'.detours ≠ c.detours)
      (hheard : c'.heard = c.heard)
  | opens (hqueue : c'.queue = c.queue) (hbusy : ¬ c.Listens) (hopens : Opens c c')
      (hheard : c'.heard = c.heard)
  | accepts {text : String} (hstatus : c.status = .waitingInput)
      (hqueue : c'.queue = c.queue ++ [text]) (hyields : c'.yields = c.yields)
      (hstatus' : c'.status ≠ .waitingInput) (hlistens : c.Listens → c'.Listens)
      (hheard : c'.heard = c.heard)
  | receives {text : String} (hqueue : c.queue = text :: c'.queue) (hphase : c'.phase ≠ .off)
      (hnext : c'.yields = c.yields ∧ c'.status ≠ .waitingInput ∨ Opens c c')
      (hheard : c'.heard = c.heard ++ [text])
  /-- The loop ends. -/
  | drops (hqueue : c'.queue = []) (hphase : c'.phase = .off) (hstatus : c'.status ≠ .waitingInput)
      (hheard : c'.heard = c.heard)

/-! ### What the host is told -/

/-- Events that tell of no input. -/
theorem heard_of_events {news : Array Event} (hevents : c'.events = c.events ++ news)
    (hnews : ∀ e ∈ news, e.input? = none) : c'.heard = c.heard := by
  rw [heard, heard, hevents, Array.toList_append, List.filterMap_append,
    Event.filterMap_eq_nil hnews, List.append_nil]

theorem heard_of_mute {news : Array Event} (hevents : c'.events = c.events ++ news)
    (hmute : ∀ e ∈ news, e.isMute) : c'.heard = c.heard :=
  heard_of_events hevents fun e he => Event.input?_of_isMute (hmute e he)

theorem heard_emit (c : Conversation σ) {event : Event} (h : event.input? = none) :
    (c.emit event).heard = c.heard :=
  heard_of_events Array.push_eq_append fun e he => by rwa [Array.mem_singleton.1 he]

/-- The input that is received is told. -/
theorem heard_received (script : Script σ) (c : Conversation σ) (text : String) :
    (c.received script text).heard = c.heard ++ [text] := by
  obtain ⟨inputs, news, hreceived, hmute⟩ := received_eq script c text
  have hbefore : ({ c with events := c.events ++ news } : Conversation σ).heard = c.heard :=
    heard_of_mute rfl hmute
  rw [hreceived, ← hbefore]
  simp [heard, Event.input?]

/-- A turn tells of no input by itself. -/
theorem heard_absorb (script : Script σ) (c : Conversation σ) (scene : Scene σ) :
    (c.absorb script scene).heard = c.heard := by
  rw [absorb_eq]
  refine heard_of_events rfl fun e he => ?_
  obtain ⟨notice, -, rfl⟩ := Array.mem_map.1 he
  cases notice <;> rfl

/-- A turn that is completed tells of no input at its end. -/
theorem heard_finish (script : Script σ) (before : Option Json) {turn : Turn}
    (h : turn.interrupted = none) (fault : Option Fault) (c : Conversation σ) :
    (c.finish script before turn fault).heard = c.heard := by
  have hprinted : ∀ d : Conversation σ,
      (d.printRejection script turn fault.isSome).heard = d.heard := by
    intro d
    unfold printRejection
    split
    · exact heard_emit _ rfl
    · rfl
  have hreported : (({ c with phase := .ready } : Conversation σ).reportAny fault).heard =
      c.heard := by
    cases fault with
    | none => rfl
    | some fault => exact heard_emit { c with phase := .ready } rfl
  unfold finish complete
  simp only [h]
  obtain ⟨head, news, hmoved, hmute⟩ := moveOn_eq script _ turn.location (turn.destination fault.isSome)
  rw [hmoved]
  refine (heard_of_mute rfl hmute).trans ?_
  exact (heard_emit _ rfl).trans ((hprinted _).trans hreported)

/-! ### Every move is one of the cases -/

theorem not_listens_of_ready (hphase : c.phase = .ready) (hcancelled : c.cancelled = false) :
    ¬ c.Listens := by
  rintro (hwaiting | ⟨-, htold⟩)
  · rw [hphase] at hwaiting
    cases hwaiting
  · exact absurd htold (by simp [hcancelled])

theorem not_listens_of_off (hphase : c.phase = .off) : ¬ c.Listens := by
  simp [Listens, hphase, Phase.isWaiting]

/-- What a turn that is taken up does with the inputs: it has received one, or there is none for
it. -/
theorem Resumes.hands {d : Conversation σ} {turn : Suspended} (h : Resumes script clock c turn d)
    (hnext : Unopened d c' ∨ Opens d c') (hqueue : c'.queue = d.queue) (hheard : c'.heard = d.heard) :
    Hands c c' := by
  have hfree : d = c → ¬ c.Listens → Hands c c' := by
    rintro rfl hbusy
    rcases hnext with ⟨hyields, hstatus, -⟩ | hopens
    · exact .passes hqueue hyields (.inl hstatus) (fun h => absurd h hbusy) hheard
    · exact .opens hqueue hbusy hopens hheard
  cases h with
  | begin hphase hcancelled => exact hfree rfl (not_listens_of_ready hphase hcancelled)
  | @answer turn deadline text rest hphase hwaiting =>
    rw [heard_received] at hheard
    obtain ⟨inputs, news, hreceived, -⟩ := received_eq script { c with queue := rest } text
    rw [hreceived] at hnext hqueue
    have htaken : c.queue = text :: c'.queue := hwaiting.trans (congrArg (text :: ·) hqueue.symm)
    rcases hnext with ⟨hyields, hstatus, hphase'⟩ | ⟨hyields, hstatus, hphase'⟩
    · refine .receives htaken hphase' (.inl ⟨hyields, ?_⟩) hheard
      rw [hstatus]
      exact (by cases ·)
    · refine .receives htaken ?_ (.inr ⟨hyields, hstatus, hphase'⟩) hheard
      intro hoff
      rw [hoff] at hphase'
      rcases hphase' with h | h <;> cases h
  | wake hphase htime => exact hfree rfl (by simp [Listens, hphase, Phase.isWaiting])

/-- **What a small step does with the inputs.** -/
theorem Advances.hands {label : Option Turn} (h : Advances script clock c label c')
    (hsound : Sound script c) : Hands c c' := by
  cases h with
  | stop hphase hcancelled =>
    obtain ⟨news, hend, hmute⟩ := endLoop_eq c
    rw [hend]
    exact .drops rfl rfl (by cases ·) (heard_of_mute rfl hmute)
  | wait hphase hcancelled hhead =>
    obtain ⟨news, hsuspend, hmute⟩ := suspend_eq c .waitingInput
    rw [hsuspend]
    exact .opens rfl (not_listens_of_ready hphase hcancelled) ⟨Nat.lt_succ_self _, rfl, .inl rfl⟩
      (heard_of_mute rfl hmute)
  | lost hphase hcancelled hhead hstep =>
    exact .passes rfl rfl (.inl rfl) (fun h => absurd h (not_listens_of_ready hphase hcancelled))
      (heard_emit c rfl)
  | freefall hphase hcancelled hhead hstep hfall =>
    exact .passes rfl rfl (.inl rfl) (fun h => absurd h (not_listens_of_ready hphase hcancelled))
      (heard_emit { c with freeSteps := 0 } rfl)
  | @enter text rest hphase hqueue =>
    obtain ⟨head, location, freeSteps, news, henter, hmute⟩ :=
      enter_eq script text (({ c with queue := rest } : Conversation σ).received script text)
    obtain ⟨inputs, told, hreceived, -⟩ := received_eq script { c with queue := rest } text
    have hheard := heard_received script { c with queue := rest } text
    rw [henter]
    rw [hreceived] at hheard ⊢
    exact .receives hqueue (by cases ·) (.inl ⟨rfl, (by cases ·)⟩)
      ((heard_of_mute rfl hmute).trans hheard)
  | @idle turn deadline hphase hdeadline =>
    have hturn : c.phase.suspended? = some turn := Phase.suspended?_of_asking hphase
    obtain ⟨head, location, status, freeSteps, news, hidle, rfl, hmute⟩ | ⟨event, hidle, hmute⟩ :=
      goIdle_eq script (hsound.within turn hturn).interrupted c
    · rw [hidle]
      refine .detours rfl rfl (by cases ·) (fun hsame => ?_) ?_
      · -- The event of the abandoned turn is one more that tells of a detour.
        have hdetours := hsame.symm.trans <| detours_of_event (.interrupted turn.turn.location .idle
          head _) Array.append_empty.symm (Event.quiet_of_mute hmute) (by simp)
        exact absurd (congrArg List.length hdetours) (by simp [Event.detour?])
      · refine heard_of_events (Array.append_assoc ..) fun e he => ?_
        rcases Array.mem_append.1 he with he | he
        · exact Event.input?_of_isMute (hmute e he)
        · rw [Array.mem_singleton.1 he]
          rfl
    · rw [hidle]
      exact .passes rfl rfl (.inl rfl) (fun _ => .inl rfl)
        (heard_of_mute rfl fun e he => Array.mem_singleton.1 he ▸ hmute)
  | @abandon turn hphase hcancelled =>
    rw [abandon_eq_emit script (hsound.within turn hphase).interrupted]
    exact .passes rfl rfl (.inl rfl) (fun _ => .inr ⟨rfl, hcancelled⟩)
      (heard_emit { c with phase := .ready } rfl)
  | @complete d turn fault after scene h hrun =>
    have hinterrupted := (h.within_run hsound hrun).interrupted
    have hheard := (heard_finish script turn.before hinterrupted fault (d.absorb script scene)).trans
      (heard_absorb script d scene)
    obtain ⟨head, outputs, talk, news, hfinish, -⟩ :=
      finish_of_completed script turn.before hinterrupted fault (d.absorb script scene)
    rw [hfinish, absorb_eq] at hheard ⊢
    exact h.hands (.inl ⟨rfl, rfl, (by cases ·)⟩) rfl hheard
  | @ask d turn left after scene h hrun =>
    have hheard := heard_absorb script d scene
    rw [absorb_eq] at hheard ⊢
    obtain ⟨phase, news, hask, hphase, hmute⟩ := ask_eq script clock ⟨after, left, turn.before⟩ _
    rw [hask]
    refine h.hands (.inr ⟨Nat.lt_succ_self _, rfl, ?_⟩) rfl ((heard_of_mute rfl hmute).trans hheard)
    rcases hphase with rfl | ⟨deadline, rfl⟩
    · exact .inr rfl
    · exact .inl rfl
  | @rest d turn duration left after scene h hrun =>
    have hheard := heard_absorb script d scene
    rw [absorb_eq] at hheard ⊢
    exact h.hands (.inl ⟨rfl, rfl, (by cases ·)⟩) rfl hheard

/-- **What a call of the host does with the inputs.** -/
theorem Calls.hands (h : Calls script c c') (hsound : Sound script c) : Hands c c' := by
  cases h with
  | start h =>
    obtain ⟨hpaused, news, rfl, hmute⟩ := start_eq h
    exact .passes rfl rfl (.inr (by cases ·))
      (fun h => absurd h (not_listens_of_off (hsound.off hpaused))) (heard_of_mute rfl hmute)
  | input text h =>
    obtain ⟨hwaiting, news, rfl, hmute⟩ := input_eq h
    exact .accepts hwaiting rfl rfl (by cases ·) id (heard_of_mute rfl hmute)
  | navigate target h =>
    obtain ⟨hoff, head, rfl⟩ := navigate_eq h
    exact .passes rfl rfl (.inl rfl) id rfl
  | cancel =>
    rcases cancel_eq c with hcancel | ⟨hbroken, hcancel⟩ | hcancel <;> rw [hcancel]
    · exact .passes rfl rfl (.inl rfl) id rfl
    · exact .passes rfl rfl (.inl rfl)
        (fun h => by simp [Listens, hbroken, Phase.isWaiting] at h) rfl
    · exact .passes rfl rfl (.inl rfl) (Or.imp id fun h => ⟨h.1, rfl⟩) rfl
  | markPaused hoff =>
    obtain ⟨news, hstatus, hmute⟩ := setStatus_eq c .paused
    rw [Conversation.markPaused, hstatus]
    exact .passes rfl rfl (.inr (by cases ·)) id (heard_of_mute rfl hmute)
  | exit => exact .passes rfl rfl (.inl rfl) id (heard_emit c rfl)

/-- **Every move** is one of the cases. -/
theorem Moves.hands (h : Moves script c c') (hc : Reachable script c) : Hands c c' := by
  cases h with
  | loop h => exact h.hands hc.sound
  | call h => exact h.hands hc.sound
  | write h =>
    obtain ⟨store, rfl⟩ := setVariable_eq h
    exact .passes rfl rfl (.inl rfl) id rfl

/-! ### What a move hands over -/

theorem deliveries_of_passes (hqueue : c'.queue = c.queue)
    (hclosed : c'.yields = c.yields ∨ c'.status ≠ .waitingInput) : c.deliveries c' = [] := by
  have hnot : ¬ (c.yields < c'.yields ∧ c'.status = .waitingInput) := by
    rintro ⟨hyields, hstatus⟩
    exact hclosed.elim (fun h => Nat.lt_irrefl _ (h ▸ hyields)) fun h => h hstatus
  simp [deliveries, hqueue, hnot]

theorem deliveries_of_opens (hqueue : c'.queue = c.queue) (h : Opens c c') :
    c.deliveries c' = [.opened] := by
  simp [deliveries, hqueue, h.yields, h.status]

theorem deliveries_of_accepts {text : String} (hqueue : c'.queue = c.queue ++ [text])
    (hyields : c'.yields = c.yields) : c.deliveries c' = [.accepted text] := by
  simp [deliveries, hqueue, hyields]

theorem deliveries_of_receives {text : String} (hqueue : c.queue = text :: c'.queue)
    (hphase : c'.phase ≠ .off) :
    c.deliveries c' = .received text ::
      if c.yields < c'.yields ∧ c'.status = .waitingInput then [.opened] else [] := by
  simp [deliveries, hqueue, Delivery.leaving_of_ne_off hphase]

theorem deliveries_of_drops (hqueue : c'.queue = []) (hphase : c'.phase = .off)
    (hstatus : c'.status ≠ .waitingInput) : c.deliveries c' = c.queue.map Delivery.discarded := by
  simp [deliveries, hqueue, hphase, hstatus, Delivery.leaving]

/-- **The queue is one.** What is accepted goes behind what is there, what is settled was in front,
and the host is told of what is received. -/
theorem Hands.order (h : Hands c c') :
    c.queue ++ (c.deliveries c').filterMap Delivery.accepted? =
        (c.deliveries c').filterMap Delivery.settled? ++ c'.queue ∧
      c'.heard = c.heard ++ (c.deliveries c').filterMap Delivery.received? := by
  cases h with
  | passes hqueue hyields hstatus hlistens hheard =>
    rw [deliveries_of_passes hqueue (.inl hyields), hqueue, hheard]
    simp
  | detours hqueue hyields hstatus hdetours hheard =>
    rw [deliveries_of_passes hqueue (.inl hyields), hqueue, hheard]
    simp
  | opens hqueue hbusy hopens hheard =>
    rw [deliveries_of_opens hqueue hopens, hqueue, hheard]
    simp [List.filterMap_cons, Delivery.accepted?, Delivery.settled?, Delivery.received?]
  | accepts hstatus hqueue hyields hstatus' hlistens hheard =>
    rw [deliveries_of_accepts hqueue hyields, hqueue, hheard]
    simp [List.filterMap_cons, Delivery.accepted?, Delivery.settled?, Delivery.received?]
  | receives hqueue hphase hnext hheard =>
    rw [deliveries_of_receives hqueue hphase, hqueue, hheard]
    split <;> simp [List.filterMap_cons, Delivery.accepted?, Delivery.settled?, Delivery.received?]
  | drops hqueue hphase hstatus hheard =>
    rw [deliveries_of_drops hqueue hphase hstatus, hqueue, hheard]
    simp [List.filterMap_map, Function.comp_def, Delivery.accepted?, Delivery.settled?,
      Delivery.received?]

/-! ### The waits so far -/

/-- The waits so far agree with the state: at most the last one holds an input, which is all that is
in the queue, and an input is accepted only while the last one is unanswered. -/
structure Inbox (waits : List Wait) (c : Conversation σ) : Prop where
  settled : ∀ wait ∈ waits.dropLast, wait.held? = none
  queue : c.queue = (waits.getLast?.bind Wait.held?).toList
  unanswered : c.status = .waitingInput → waits.getLast? = some .unanswered
  listens : c.queue ≠ [] ∨ c.status = .waitingInput → c.Listens

namespace Inbox

variable {waits past : List Wait} {last : Wait}

/-- An input in the queue is held by the last wait. -/
theorem exists_held (h : Inbox waits c) {text : String} {rest : List String}
    (hqueue : c.queue = text :: rest) : rest = [] ∧ ∃ past, waits = past ++ [.held text] := by
  have hlast := h.queue.symm.trans hqueue
  obtain ⟨last, hwait⟩ | hnone : (∃ last, waits.getLast? = some last) ∨ waits.getLast? = none := by
    cases waits.getLast? <;> simp
  · rw [hwait, Option.bind_some] at hlast
    cases hheld : last.held? with
    | none => simp [hheld] at hlast
    | some _ =>
      obtain ⟨rfl, rfl⟩ : _ = text ∧ [] = rest := by simpa [hheld] using hlast
      obtain rfl := Wait.eq_held hheld
      exact ⟨rfl, List.getLast?_eq_some_iff.1 hwait⟩
  · simp [hnone] at hlast

/-- While the queue is empty no wait holds an input. -/
theorem held?_eq_none (h : Inbox waits c) (hqueue : c.queue = []) :
    ∀ wait ∈ waits, wait.held? = none := by
  intro wait hwait
  rcases List.eq_nil_or_concat' waits with rfl | ⟨past, last, rfl⟩
  · cases hwait
  · have hlast := h.queue.symm.trans hqueue
    rcases List.mem_append.1 hwait with hpast | hmem
    · exact h.settled wait (by simpa using hpast)
    · obtain rfl := List.mem_singleton.1 hmem
      simpa using hlast

/-- The waits with another last one. -/
theorem of_concat (hpast : ∀ wait ∈ past, wait.held? = none) (hqueue : c.queue = last.held?.toList)
    (hunanswered : c.status = .waitingInput → last = .unanswered)
    (hlistens : c.queue ≠ [] ∨ c.status = .waitingInput → c.Listens) : Inbox (past ++ [last]) c where
  settled := by simpa using hpast
  queue := by simpa using hqueue
  unanswered h := by simp [hunanswered h]
  listens := hlistens

end Inbox

/-- **A move takes the waits further**, unless the loop breaks down or a user who has answered is
taken to be idle. -/
theorem Hands.inbox {waits : List Wait} (h : Hands c c') (hinbox : Inbox waits c)
    (hbroken : c'.phase ≠ .broken) (hidle : c.queue = [] ∨ c'.detours = c.detours) :
    ∃ waits' : List Wait, waits'.flatMap Wait.deliveries =
      waits.flatMap Wait.deliveries ++ c.deliveries c' ∧ Inbox waits' c' := by
  -- A wait that opens finds no input and lets the loop listen.
  have hopened : Opens c c' → ∀ past : List Wait, (∀ wait ∈ past, wait.held? = none) →
      c'.queue = [] → Inbox (past ++ [.unanswered]) c' := fun hopens past hpast hempty =>
    .of_concat hpast hempty (fun _ => rfl) fun _ => .inl (hopens.phase.resolve_right hbroken)
  cases h with
  | passes hqueue hyields hstatus hlistens =>
    refine ⟨waits, by simp [deliveries_of_passes hqueue (.inl hyields)], ?_⟩
    have hkept : c'.status = .waitingInput → c.status = .waitingInput := fun h =>
      hstatus.elim (fun hsame => hsame.symm.trans h) fun hnot => absurd h hnot
    exact ⟨hinbox.settled, hqueue.trans hinbox.queue, fun h => hinbox.unanswered (hkept h),
      fun h => hlistens (hinbox.listens (h.imp (hqueue ▸ ·) hkept))⟩
  | detours hqueue hyields hstatus hdetours =>
    -- The wait is gone: what it might have been given would be left to the next one.
    have hempty : c'.queue = [] := hqueue.trans (hidle.resolve_right hdetours)
    refine ⟨waits, by simp [deliveries_of_passes hqueue (.inl hyields)], ?_⟩
    exact ⟨hinbox.settled, hqueue.trans hinbox.queue, fun h => absurd h hstatus,
      fun h => absurd h (by simp [hempty, hstatus])⟩
  | opens hqueue hbusy hopens =>
    have hempty : c.queue = [] := by
      by_contra hnonempty
      exact hbusy (hinbox.listens (.inl hnonempty))
    exact ⟨waits ++ [.unanswered], by simp [deliveries_of_opens hqueue hopens, Wait.deliveries],
      hopened hopens waits (hinbox.held?_eq_none hempty) (hqueue.trans hempty)⟩
  | @accepts text hstatus hqueue hyields hstatus' hlistens =>
    obtain ⟨past, rfl⟩ := List.getLast?_eq_some_iff.1 (hinbox.unanswered hstatus)
    have hempty : c.queue = [] := by simpa [Wait.held?] using hinbox.queue
    refine ⟨past ++ [.held text], ?_, .of_concat ?_ ?_ (fun h => absurd h hstatus') fun _ => ?_⟩
    · simp [deliveries_of_accepts hqueue hyields, Wait.deliveries]
    · exact fun wait h => hinbox.held?_eq_none hempty wait (List.mem_append_left _ h)
    · rw [hqueue, hempty]
      rfl
    · exact hlistens (hinbox.listens (.inr hstatus))
  | @receives text hqueue hphase hnext =>
    obtain ⟨hempty, past, rfl⟩ := hinbox.exists_held hqueue
    have hpast : ∀ wait ∈ past, wait.held? = none := by simpa using hinbox.settled
    rw [deliveries_of_receives hqueue hphase]
    -- The turn that has received the input may ask once more in the same move.
    rcases hnext with ⟨hyields, hstatus⟩ | hopens
    · refine ⟨past ++ [.received text], by simp [Wait.deliveries, hstatus], ?_⟩
      exact .of_concat hpast hempty (fun h => absurd h hstatus)
        fun h => absurd h (by simp [hempty, hstatus])
    · refine ⟨past ++ [.received text] ++ [.unanswered],
        by simp [Wait.deliveries, hopens.yields, hopens.status], hopened hopens _ ?_ hempty⟩
      intro wait hwait
      rcases List.mem_append.1 hwait with h | h
      · exact hpast wait h
      · rw [List.mem_singleton.1 h]
        rfl
  | drops hqueue hphase hstatus =>
    rw [deliveries_of_drops hqueue hphase hstatus]
    have hlistens : c'.queue ≠ [] ∨ c'.status = .waitingInput → c'.Listens :=
      fun h => absurd h (by simp [hqueue, hstatus])
    cases hheld : c.queue with
    | nil =>
      refine ⟨waits, by simp, hinbox.settled, ?_, fun h => absurd h hstatus, hlistens⟩
      rw [hqueue, ← hheld, hinbox.queue]
    | cons text rest =>
      obtain ⟨rfl, past, rfl⟩ := hinbox.exists_held hheld
      refine ⟨past ++ [.discarded text], by simp [Wait.deliveries], ?_⟩
      exact .of_concat (by simpa using hinbox.settled) hqueue (fun h => absurd h hstatus) hlistens

/-- No call of the host breaks the loop down. -/
theorem Calls.phase_ne_broken (h : Calls script c c') (hc : c.phase ≠ .broken) :
    c'.phase ≠ .broken := by
  cases h with
  | start h =>
    obtain ⟨-, news, rfl, -⟩ := start_eq h
    exact (by cases ·)
  | input text h =>
    obtain ⟨-, news, rfl, -⟩ := input_eq h
    exact hc
  | navigate target h =>
    obtain ⟨-, head, rfl⟩ := navigate_eq h
    exact hc
  | cancel =>
    rcases cancel_eq c with hcancel | ⟨hbroken, -⟩ | hcancel
    · rwa [hcancel]
    · exact absurd hbroken hc
    · rwa [hcancel]
  | markPaused hoff =>
    obtain ⟨news, hstatus, -⟩ := setStatus_eq c .paused
    rw [Conversation.markPaused, hstatus]
    exact hc
  | exit => exact hc

/-- A loop whose waits can be counted does not break down. -/
theorem Reachable.phase_ne_broken (h : Reachable script c)
    (hcountable : script.settings.patience.isCountable) : c.phase ≠ .broken := by
  induction h with
  | initial store world => exact (by cases ·)
  | loop hc h _ => exact h.phase_ne_broken hc.sound hcountable
  | call hc h ih => exact h.phase_ne_broken ih
  | write hc h ih =>
    obtain ⟨store, rfl⟩ := setVariable_eq h
    exact ih

/-! ### Courses -/

/-- What a row of moves hands over. -/
def handed (moves : List (Conversation σ × Conversation σ)) : List Delivery :=
  moves.flatMap fun m => m.1.deliveries m.2

theorem handed_concat (moves : List (Conversation σ × Conversation σ)) (c c' : Conversation σ) :
    handed (moves ++ [(c, c')]) = handed moves ++ c.deliveries c' := by
  simp [handed]

variable {moves : List (Conversation σ × Conversation σ)} {store : Store} {world : σ}

/-- **The inputs keep their order** in every course: those that are accepted are those that are
settled, and then those in the queue; the host is told of those that are received. -/
theorem Course.order (h : Course script (.ofScript script store world) moves c) :
    (handed moves).filterMap Delivery.accepted? =
        (handed moves).filterMap Delivery.settled? ++ c.queue ∧
      c.heard = (handed moves).filterMap Delivery.received? := by
  induction h with
  | refl => exact ⟨rfl, rfl⟩
  | @move moves c c' hcourse h ih =>
    obtain ⟨hqueue, htold⟩ := (h.hands (hcourse.reachable (.initial store world))).order
    simp only [handed_concat, List.filterMap_append]
    constructor
    · rw [ih.1, List.append_assoc, hqueue, List.append_assoc]
    · rw [htold, ih.2]

/-- **The waits of a course** agree with its state. -/
theorem Course.inbox (h : Course script (.ofScript script store world) moves c)
    (hcountable : script.settings.patience.isCountable)
    (hidle : ∀ m ∈ moves, m.1.queue = [] ∨ m.2.detours = m.1.detours) :
    ∃ waits : List Wait, handed moves = waits.flatMap Wait.deliveries ∧ Inbox waits c := by
  induction h with
  | refl =>
    refine ⟨[], rfl, (fun _ h => by cases h), rfl, (by cases ·), fun h => ?_⟩
    rcases h with hqueue | hstatus
    · exact absurd rfl hqueue
    · cases hstatus
  | @move moves c c' hcourse h ih =>
    obtain ⟨waits, hhanded, hinbox⟩ := ih fun m hm => hidle m (List.mem_append_left _ hm)
    have hreach : Reachable script c := hcourse.reachable (.initial store world)
    obtain ⟨waits', hfurther, hinbox'⟩ := (h.hands hreach).inbox hinbox
      ((h.reachable hreach).phase_ne_broken hcountable) (hidle (c, c') (by simp))
    exact ⟨waits', by rw [handed_concat, hhanded, hfurther], hinbox'⟩

/-- **What becomes of the inputs.** In every course they are settled at most once, in the order in
which they are accepted, and the host is told of those that are received. If waits can be counted and
no detour is taken while an input is in the queue, each of them is received by the wait that it was
given to, or dropped when this wait ends, or still held by the last wait; and none is left when the
loop has ended. -/
theorem inputs_delivered (h : Course script (.ofScript script store world) moves c) :
    (handed moves).filterMap Delivery.accepted? =
        (handed moves).filterMap Delivery.settled? ++ c.queue ∧
      c.heard = (handed moves).filterMap Delivery.received? ∧
      (script.settings.patience.isCountable →
        (∀ m ∈ moves, m.1.queue = [] ∨ m.2.detours = m.1.detours) →
        (∃ waits : List Wait, handed moves = waits.flatMap Wait.deliveries ∧
          (∀ wait ∈ waits.dropLast, wait.held? = none) ∧
          c.queue = (waits.getLast?.bind Wait.held?).toList) ∧
        (c.phase = .off → c.queue = [])) := by
  obtain ⟨hqueue, hheard⟩ := h.order
  refine ⟨hqueue, hheard, fun hcountable hidle => ?_⟩
  obtain ⟨waits, hhanded, hinbox⟩ := h.inbox hcountable hidle
  refine ⟨⟨waits, hhanded, hinbox.settled, hinbox.queue⟩, fun hoff => ?_⟩
  by_contra hheld
  exact not_listens_of_off hoff (hinbox.listens (.inl hheld))

/-- A door to go through, and an idle page that asks as well. -/
def doorway : Script Unit where
  document := { pages := [("/on-idle", [{ links := some [("back", "/start")] }]),
    ("/start", [{ links := some [("go", "/start")] }])] }
  settings := { idleAfterSeconds := some (Binary64.ofInt 10) }
  host := ⟨[], fun _ world => (.error "offline", world)⟩

/-- The conversation once it has been started. -/
def arriving : Conversation Unit :=
  { (ofScript doorway .empty ()).setStatus .busy with phase := .ready }

/-- The conversation once the step at the door asks. -/
def asked : Conversation Unit := settleFrom doorway 0 1 arriving

/-- The conversation once it was answered. -/
def replied : Conversation Unit := { asked.setStatus .busy with queue := asked.queue ++ ["go"] }

/-- The conversation once the answer is received. -/
def entered : Conversation Unit := settleFrom doorway 0 1 replied

theorem course_replied : Course doorway (.ofScript doorway .empty ())
    [(.ofScript doorway .empty (), arriving), (arriving, asked), (asked, replied)] replied := by
  obtain ⟨label, hask⟩ : ∃ label, Advances doorway 0 arriving label asked :=
    advances_of_advance? rfl
  exact ((Course.refl.move (.call (.start rfl))).move (.loop hask)).move (.call (.input "go" rfl))

/-- A user who goes through the door. -/
def visit : List (Conversation Unit × Conversation Unit) :=
  [(.ofScript doorway .empty (), arriving), (arriving, asked), (asked, replied), (replied, entered)]

theorem inputs_delivered_entered :
    Course doorway (.ofScript doorway .empty ()) visit entered ∧
      handed visit = [.opened, .accepted "go", .received "go"] ∧ entered.heard = ["go"] ∧
      entered.queue = [] ∧ ∃ waits : List Wait, handed visit = waits.flatMap Wait.deliveries ∧
        ∀ wait ∈ waits.dropLast, wait.held? = none := by
  obtain ⟨label, hreceive⟩ : ∃ label, Advances doorway 0 replied label entered :=
    advances_of_advance? rfl
  have hcourse : Course doorway (.ofScript doorway .empty ()) visit entered :=
    course_replied.move (.loop hreceive)
  have hhanded : handed visit = [.opened, .accepted "go", .received "go"] := by decide +kernel
  have hidle : ∀ m ∈ visit, m.1.queue = [] ∨ m.2.detours = m.1.detours := by decide +kernel
  obtain ⟨-, hheard, hwaits⟩ := inputs_delivered hcourse
  obtain ⟨⟨waits, hsplit, hsettled, -⟩, -⟩ := hwaits (by decide +kernel) hidle
  rw [hhanded] at hheard
  exact ⟨hcourse, hhanded, hheard, by decide +kernel, waits, hsplit, hsettled⟩

/-- The conversation when the user is taken to be idle although the answer is there. -/
def overtaken : Conversation Unit :=
  replied.goIdle doorway (replied.phase.suspended?.getD default)

/-- A detour while an input is in the queue gives the input to the wait of another step. -/
theorem received_of_overtaken : ∃ moves c, Course doorway (.ofScript doorway .empty ()) moves c ∧
    handed moves = [.opened, .accepted "go", .opened, .received "go"] := by
  have hidle : Advances doorway 10000 replied none overtaken :=
    .idle rfl (Nat.le_refl _)
  obtain ⟨label, hask⟩ : ∃ label, Advances doorway 10000 overtaken label
      (settleFrom doorway 10000 1 overtaken) := advances_of_advance? rfl
  obtain ⟨label', hreceive⟩ : ∃ label, Advances doorway 10000
      (settleFrom doorway 10000 1 overtaken) label (settleFrom doorway 10000 2 overtaken) :=
    advances_of_advance? rfl
  exact ⟨_, _, ((course_replied.move (.loop hidle)).move (.loop hask)).move (.loop hreceive),
    by decide +kernel⟩

end Conversation

end Dialogue
