import Dialogue.Proofs.Conversation.Reachable
/-!
# Where a conversation is

The location that the host sees is the current one, and a step is there. Only a document that lacks
the first step of its entry page has a conversation elsewhere: at first it is at that step, until the
step is looked up and found missing.

## Main definitions

- `Script.landing`, `Script.arrival` — where a target, or the end of a page, leads to
- `Conversation.AtStep` — the current location is known and has a step
- `Conversation.Untouched`, `Conversation.Placed` — nothing was evaluated; what holds of every state

## Main statements

- `Conversation.finish_arrival` — where a turn that is over leads to
- `Conversation.Advances.placed`, `Conversation.Calls.placed` — a small step, and a call
- `Conversation.Reachable.head_valid` — every state
-/

namespace Dialogue

variable {σ : Type} {script : Script σ}

namespace Document

variable {document : Document}

/-- Only a step is moved to. -/
theorem navigate_eq_ok {source target head : Option Location}
    (h : document.navigate source target = .ok head) :
    head = target ∧ ∀ l, head = some l → (document.step? l).isSome := by
  unfold navigate at h
  split at h
  · obtain rfl := Except.ok.inj h
    exact ⟨rfl, by simp⟩
  · next location =>
    split at h
    · next hstep =>
      obtain rfl := Except.ok.inj h
      refine ⟨rfl, fun l hl => ?_⟩
      obtain rfl := Option.some.inj hl
      exact hstep
    · cases h

/-- Only a location without a step is looked up in vain. -/
theorem current_eq_error {location : Option Location} {fault : Fault}
    (h : document.current location = .error fault) :
    ∃ l, location = some l ∧ document.step? l = none ∧ fault = .navigation none l.text := by
  cases location with
  | none => cases h
  | some l =>
    cases hstep : document.step? l with
    | some step => simp [current, hstep] at h
    | none =>
      simp only [current, hstep] at h
      exact ⟨l, rfl, hstep, (Except.error.inj h).symm⟩

/-- A step is at an index of its page. -/
theorem index_lt_of_step? {l : Location} (h : (document.step? l).isSome) :
    ∃ steps, document.page? l.page = some steps ∧ l.index < steps.length := by
  obtain ⟨step, hstep⟩ := Option.isSome_iff_exists.1 h
  obtain ⟨steps, hpage, hget⟩ := Option.bind_eq_some_iff.1 hstep
  exact ⟨steps, hpage, (List.getElem?_eq_some_iff.1 hget).1⟩

/-- What follows a location is the step after it on its page. -/
theorem following?_eq_some {location : Option Location} {next : Location}
    (h : document.following? location = some next) :
    ∃ l, location = some l ∧ next = l.successor ∧ (document.step? next).isSome := by
  unfold following? at h
  obtain ⟨l, hl, h⟩ := Option.bind_eq_some_iff.1 h
  obtain ⟨steps, hpage, h⟩ := Option.bind_eq_some_iff.1 h
  split at h
  · next hlt =>
    obtain rfl := Option.some.inj h
    refine ⟨l, hl, rfl, ?_⟩
    rw [step?, Location.successor, hpage, Option.bind_some, List.getElem?_eq_getElem hlt]
    rfl
  · cases h

end Document

namespace Script

/-- A conversation is at first at the first step of the entry page, if anywhere. -/
theorem eq_entry_of_initial {l : Location} (h : script.initial = some l) : l = script.entry := by
  unfold initial at h
  split at h
  · cases h
  · exact (Option.some.inj h).symm

/-- Where a target leads to: to no step unless it is one. -/
def landing (script : Script σ) (target : Location) : Option Location :=
  if (script.document.step? target).isSome then some target else none

/-- Where a turn leads to that is over: to its target, or off the page. -/
def arrival (script : Script σ) : Option Location → Option Location
  | some target => script.landing target
  | none => if script.document.hasTriggers then none else script.landing script.entry

theorem isSome_of_landing {target l : Location} (h : script.landing target = some l) :
    (script.document.step? l).isSome := by
  unfold landing at h
  split at h
  · next hstep =>
    obtain rfl := Option.some.inj h
    exact hstep
  · cases h

theorem isSome_of_arrival {target : Option Location} {l : Location}
    (h : script.arrival target = some l) : (script.document.step? l).isSome := by
  cases target with
  | some target => exact isSome_of_landing h
  | none =>
    rw [arrival] at h
    split at h
    · cases h
    · exact isSome_of_landing h

end Script

/-- A turn stays at its location. -/
theorem Turn.location_of_run {host : Host σ} {left : List Directive} {turn after : Turn}
    {scene scene' : Scene σ} {progress : Progress}
    (h : turn.run host left scene = (progress, after, scene')) : after.location = turn.location := by
  have hkeeps := (Turn.run_keeps host left turn scene).location
  rwa [h] at hkeeps

/-- Whether the event tells only that a conversation starts, pauses or is over. -/
def Event.isFormal : Event → Bool
  | .status _ => true
  | .exit => true
  | _ => false

namespace Conversation

/-- The host sees the current location, and a step is there. -/
structure AtStep (script : Script σ) (c : Conversation σ) : Prop where
  agrees : c.location = c.head
  resolves : ∀ l, c.head = some l → (script.document.step? l).isSome

/-- The conversation is where it was at first, and no step was evaluated. -/
structure Untouched (script : Script σ) (c : Conversation σ) : Prop where
  head : c.head = script.initial
  location : c.location = script.initial
  phase : c.phase = .off ∨ c.phase = .ready
  events : ∀ e ∈ c.events, e.isFormal

/-- What holds of the location in every state that comes about. -/
structure Placed (script : Script σ) (c : Conversation σ) : Prop where
  place : c.AtStep script ∨ c.Untouched script
  turn : ∀ turn, c.phase.suspended? = some turn → c.head = some turn.turn.location

/-! ### The parts of a small step -/

theorem AtStep.of_arrival {c : Conversation σ} {target : Option Location}
    (h : c.head = script.arrival target ∧ c.location = script.arrival target) : c.AtStep script where
  agrees := h.2.trans h.1.symm
  resolves _ hl := Script.isSome_of_arrival (h.1.symm.trans hl)

theorem AtStep.none {c : Conversation σ} : (c.place none).AtStep script where
  agrees := rfl
  resolves _ h := by cases h

/-- Following a target leads where it leads. -/
theorem follow_landing (c : Conversation σ) (target : Location) :
    (c.follow script target).head = script.landing target ∧
      (c.follow script target).location = script.landing target := by
  unfold follow Document.navigate Script.landing
  dsimp only
  by_cases h : (script.document.step? target).isSome
  · rw [if_pos h, if_pos h]
    exact ⟨rfl, rfl⟩
  · rw [if_neg h, if_neg h]
    exact ⟨rfl, rfl⟩

theorem moveOn_arrival (c : Conversation σ) (location : Location) (target : Option Location) :
    (c.moveOn script location target).head = script.arrival target ∧
      (c.moveOn script location target).location = script.arrival target := by
  cases target with
  | some target => exact follow_landing c target
  | none =>
    rw [moveOn, leavePage, Script.arrival]
    by_cases h : script.document.hasTriggers
    · rw [if_pos h, if_pos h]
      exact ⟨rfl, rfl⟩
    · rw [if_neg h, if_neg h]
      exact follow_landing _ _

/-- **A turn that is over leads where its destination leads.** -/
theorem finish_arrival {turn : Turn} (h : turn.interrupted = none) (before : Option Json)
    (fault : Option Fault) (c : Conversation σ) :
    (c.finish script before turn fault).head = script.arrival (turn.destination fault.isSome) ∧
      (c.finish script before turn fault).location =
        script.arrival (turn.destination fault.isSome) := by
  unfold finish complete
  simp only [h]
  exact moveOn_arrival _ _ _

theorem AtStep.detour {c : Conversation σ} (h : c.AtStep script) (location : Location) :
    (c.detour script location).AtStep script := by
  unfold Conversation.detour
  dsimp only
  split
  · next head hnavigate => exact ⟨rfl, (Document.navigate_eq_ok hnavigate).2⟩
  · exact ⟨rfl, h.resolves⟩

/-- An abandoned turn leaves the conversation where it is, or at the idle page. -/
theorem AtStep.abandon {c : Conversation σ} (h : c.AtStep script) {turn : Suspended}
    (hturn : turn.turn.interrupted = Option.none) (reason : Interruption) :
    (Conversation.abandon script turn reason c).AtStep script := by
  have hready : AtStep script ({ c with phase := .ready } : Conversation σ) :=
    ⟨h.agrees, h.resolves⟩
  rw [abandon_eq_emit script hturn]
  cases reason with
  | aborted => exact ⟨hready.agrees, hready.resolves⟩
  | idle =>
    obtain ⟨hagrees, hresolves⟩ := hready.detour turn.turn.location
    exact ⟨hagrees, hresolves⟩

theorem AtStep.goIdle {c : Conversation σ} (h : c.AtStep script) {turn : Suspended}
    (hturn : turn.turn.interrupted = Option.none) : (c.goIdle script turn).AtStep script := by
  unfold Conversation.goIdle
  dsimp only
  split
  · refine AtStep.abandon ?_ hturn .idle
    obtain ⟨news, hstatus, -⟩ := setStatus_eq (c.emit (.idle turn.turn.location
      ((script.document.step? turn.turn.location).getD turn.turn.step))) .busy
    rw [hstatus]
    exact ⟨h.agrees, h.resolves⟩
  · exact ⟨h.agrees, h.resolves⟩

theorem AtStep.enter {c : Conversation σ} (h : c.AtStep script) (text : String) :
    (c.enter script text).AtStep script := by
  unfold Conversation.enter
  dsimp only
  split
  · exact ⟨h.agrees, h.resolves⟩
  · next target htarget =>
    split
    · next head hnavigate =>
      cases hread : Location.read target with
      | error fault =>
        rw [hread] at hnavigate
        cases hnavigate
      | ok l =>
        rw [hread] at hnavigate
        have hstep : script.document.navigate c.head (some l) = .ok head := hnavigate
        exact ⟨rfl, (Document.navigate_eq_ok hstep).2⟩
    · exact ⟨h.agrees, h.resolves⟩

/-- The host moves a conversation only to a step, or nowhere. -/
theorem atStep_navigate {c c' : Conversation σ} {target : Option Location}
    (h : c.navigate script target = .ok c') : c'.AtStep script := by
  unfold navigate at h
  split at h
  · cases h
  · split at h
    · next head hnavigate =>
      obtain rfl := Except.ok.inj h
      exact ⟨rfl, (Document.navigate_eq_ok hnavigate).2⟩
    · cases h

/-! ### Every state -/

/-- A conversation at a step, or nowhere, with no turn that waits. -/
theorem AtStep.placed {c : Conversation σ} (h : c.AtStep script)
    (hfree : c.phase.suspended? = Option.none) : Placed script c where
  place := .inl h
  turn turn hturn := by rw [hfree] at hturn; cases hturn

theorem Placed.agrees {c : Conversation σ} (h : Placed script c) : c.location = c.head := by
  rcases h.place with hat | huntouched
  · exact hat.agrees
  · exact huntouched.location.trans huntouched.head.symm

/-- Past the first evaluation the conversation is at a step. -/
theorem Placed.atStep {c : Conversation σ} (h : Placed script c)
    (hphase : c.phase ≠ .off ∧ c.phase ≠ .ready) : c.AtStep script := by
  rcases h.place with hat | huntouched
  · exact hat
  · rcases huntouched.phase with hoff | hready
    · exact absurd hoff hphase.1
    · exact absurd hready hphase.2

theorem Placed.atStep_of_suspended {c : Conversation σ} (h : Placed script c) {turn : Suspended}
    (hturn : c.phase.suspended? = some turn) : c.AtStep script := by
  refine h.atStep ⟨fun hoff => ?_, fun hready => ?_⟩
  · rw [hoff] at hturn
    cases hturn
  · rw [hready] at hturn
    cases hturn

/-- A change of the status leaves an untouched conversation untouched. -/
theorem Untouched.setStatus {c : Conversation σ} (h : c.Untouched script) (status : Status) :
    (c.setStatus status).Untouched script := by
  unfold Conversation.setStatus
  split
  · exact h
  · refine ⟨h.head, h.location, h.phase, fun e he => ?_⟩
    rcases Array.mem_push.1 he with he | rfl
    · exact h.events e he
    · rfl

/-- A turn that is taken up is at its location. -/
theorem Resumes.atStep {clock : Nat} {c d : Conversation σ} {turn : Suspended}
    (h : Resumes script clock c turn d) (hc : Placed script c) :
    d.AtStep script ∧ d.head = some turn.turn.location := by
  cases h with
  | @begin location step hphase hcancelled hhead hstep hfall =>
    refine ⟨⟨hc.agrees, fun l hl => ?_⟩, hhead⟩
    obtain rfl := Option.some.inj (hl.symm.trans hhead)
    rw [hstep]
    rfl
  | @answer turn deadline text rest hphase hqueue =>
    have hturn : c.phase.suspended? = some turn := Phase.suspended?_of_asking hphase
    have hat := hc.atStep_of_suspended hturn
    obtain ⟨inputs, news, hreceived, -⟩ := received_eq script { c with queue := rest } text
    rw [hreceived]
    exact ⟨⟨hat.agrees, hat.resolves⟩, hc.turn turn hturn⟩
  | wake hphase htime =>
    have hturn : c.phase.suspended? = some turn := Phase.suspended?_of_resting hphase
    exact ⟨hc.atStep_of_suspended hturn, hc.turn turn hturn⟩

/-- **Small steps keep the conversation at a step**, or let it find that there is none. -/
theorem Advances.placed {clock : Nat} {c c' : Conversation σ} {label : Option Turn}
    (h : Advances script clock c label c') (hsound : Sound script c) (hc : Placed script c) :
    Placed script c' := by
  cases h with
  | stop hphase hcancelled =>
    obtain ⟨news, hend, -⟩ := endLoop_eq c
    rcases hc.place with hat | huntouched
    · rw [hend]
      exact AtStep.placed ⟨hat.agrees, hat.resolves⟩ rfl
    · have hstill : Untouched script { c with queue := [], phase := .off, yields := c.yields + 1 } :=
        ⟨huntouched.head, huntouched.location, .inl rfl, huntouched.events⟩
      refine ⟨.inr (hstill.setStatus .paused), fun turn hturn => ?_⟩
      rw [hend] at hturn
      cases hturn
  | wait hphase hcancelled hhead =>
    obtain ⟨news, hsuspend, -⟩ := suspend_eq c .waitingInput
    rw [hsuspend]
    exact AtStep.placed ⟨hc.agrees, fun l hl => by cases hl.symm.trans hhead⟩ rfl
  | lost hphase hcancelled hhead hstep =>
    refine AtStep.none.placed ?_
    show c.phase.suspended? = Option.none
    rw [hphase]
    rfl
  | freefall hphase hcancelled hhead hstep hfall =>
    refine AtStep.none.placed ?_
    show c.phase.suspended? = Option.none
    rw [hphase]
    rfl
  | @enter text rest hphase hqueue =>
    have hat : c.AtStep script := hc.atStep (by rw [hphase]; exact ⟨(by cases ·), (by cases ·)⟩)
    have hreceived : (({ c with queue := rest } : Conversation σ).received script text).AtStep
        script := by
      obtain ⟨inputs, told, hreceived, -⟩ := received_eq script { c with queue := rest } text
      rw [hreceived]
      exact ⟨hat.agrees, hat.resolves⟩
    refine (hreceived.enter text).placed ?_
    obtain ⟨head, location, freeSteps, inputs, news, henter, -⟩ :=
      enter_received_eq script text { c with queue := rest }
    rw [henter]
    rfl
  | @idle turn deadline hphase hdeadline =>
    have hturn : c.phase.suspended? = some turn := Phase.suspended?_of_asking hphase
    have hinterrupted := (hsound.within turn hturn).interrupted
    have hat := (hc.atStep_of_suspended hturn).goIdle hinterrupted
    refine ⟨.inl hat, fun t ht => ?_⟩
    obtain ⟨head, location, status, freeSteps, news, hidle, -⟩ | ⟨event, hidle, -⟩ :=
      goIdle_eq script hinterrupted c
    · rw [hidle] at ht
      cases ht
    · rw [hidle] at ht ⊢
      obtain rfl := Option.some.inj ht
      exact hc.turn turn hturn
  | @abandon turn hphase hcancelled =>
    have hinterrupted := (hsound.within turn hphase).interrupted
    refine ((hc.atStep_of_suspended hphase).abandon hinterrupted .aborted).placed ?_
    obtain ⟨head, location, store, freeSteps, news, habandon, -⟩ :=
      abandon_eq script hinterrupted .aborted c
    rw [habandon]
    rfl
  | @complete d turn fault after scene h hrun =>
    have hinterrupted : after.interrupted = Option.none := (h.within_run hsound hrun).interrupted
    refine (AtStep.of_arrival (finish_arrival hinterrupted turn.before fault _)).placed ?_
    obtain ⟨head, outputs, talk, news, hfinish, -⟩ :=
      finish_of_completed script turn.before hinterrupted fault (d.absorb script scene)
    rw [hfinish]
    rfl
  | @ask d turn left after scene h hrun =>
    obtain ⟨hat, hhead⟩ := h.atStep hc
    have hlocation : after.location = turn.turn.location := Turn.location_of_run hrun
    rw [absorb_eq]
    obtain ⟨phase, news, hask, hphase, -⟩ := ask_eq script clock ⟨after, left, turn.before⟩ _
    rw [hask]
    refine ⟨.inl ⟨hat.agrees, hat.resolves⟩, fun t ht => ?_⟩
    rcases hphase with rfl | ⟨deadline, rfl⟩
    · cases ht
    · obtain rfl := Option.some.inj ht
      exact hlocation ▸ hhead
  | @rest d turn duration left after scene h hrun =>
    obtain ⟨hat, hhead⟩ := h.atStep hc
    have hlocation : after.location = turn.turn.location := Turn.location_of_run hrun
    rw [absorb_eq]
    refine ⟨.inl ⟨hat.agrees, hat.resolves⟩, fun t ht => ?_⟩
    obtain rfl := Option.some.inj ht
    exact hlocation ▸ hhead

/-- A call moves only to a step, or nowhere. -/
theorem AtStep.calls {c c' : Conversation σ} (hc : c.AtStep script) (h : Calls script c c') :
    c'.AtStep script := by
  cases h with
  | start h =>
    obtain ⟨-, news, rfl, -⟩ := start_eq h
    exact ⟨hc.agrees, hc.resolves⟩
  | input text h =>
    obtain ⟨-, news, rfl, -⟩ := input_eq h
    exact ⟨hc.agrees, hc.resolves⟩
  | navigate target h => exact atStep_navigate h
  | cancel =>
    rcases cancel_eq c with hcancel | ⟨-, hcancel⟩ | hcancel <;> rw [hcancel]
    · exact hc
    · exact ⟨hc.agrees, hc.resolves⟩
    · exact ⟨hc.agrees, hc.resolves⟩
  | markPaused hoff =>
    obtain ⟨news, hstatus, -⟩ := setStatus_eq c .paused
    rw [Conversation.markPaused, hstatus]
    exact ⟨hc.agrees, hc.resolves⟩
  | exit => exact ⟨hc.agrees, hc.resolves⟩

/-- A call evaluates nothing: the conversation stays untouched unless it is moved to a step. -/
theorem Untouched.calls {c c' : Conversation σ} (hc : c.Untouched script)
    (h : Calls script c c') : c'.Untouched script ∨ c'.AtStep script := by
  cases h with
  | start h =>
    unfold start at h
    split at h
    · cases h
    · obtain rfl := Except.ok.inj h
      have hbusy := hc.setStatus .busy
      exact .inl ⟨hbusy.head, hbusy.location, .inr rfl, hbusy.events⟩
  | input text h =>
    unfold input at h
    split at h
    · obtain rfl := Except.ok.inj h
      have hbusy := hc.setStatus .busy
      exact .inl ⟨hbusy.head, hbusy.location, hbusy.phase, hbusy.events⟩
    · cases h
  | navigate target h => exact .inr (atStep_navigate h)
  | cancel =>
    rcases cancel_eq c with hcancel | ⟨-, hcancel⟩ | hcancel <;> rw [hcancel]
    · exact .inl hc
    · exact .inl ⟨hc.head, hc.location, .inl rfl, hc.events⟩
    · exact .inl ⟨hc.head, hc.location, hc.phase, hc.events⟩
  | markPaused hoff => exact .inl (hc.setStatus .paused)
  | exit =>
    refine .inl ⟨hc.head, hc.location, hc.phase, fun e he => ?_⟩
    rcases Array.mem_push.1 he with he | rfl
    · exact hc.events e he
    · rfl

/-- **Calls of the host keep the conversation at a step**, or untouched. -/
theorem Calls.placed {c c' : Conversation σ} (h : Calls script c c') (hc : Placed script c) :
    Placed script c' := by
  have hkept : ∀ turn, c'.phase.suspended? = some turn → c'.head = some turn.turn.location := by
    intro turn hturn
    obtain ⟨hphase, hhead⟩ := h.suspended hturn
    exact hhead.trans (hc.turn turn hphase)
  rcases hc.place with hat | huntouched
  · exact ⟨.inl (hat.calls h), hkept⟩
  · exact ⟨(huntouched.calls h).symm, hkept⟩

/-- **Every state that comes about has its location in order.** -/
theorem Reachable.placed {c : Conversation σ} (h : Reachable script c) : Placed script c := by
  induction h with
  | initial store world =>
    exact ⟨.inr ⟨rfl, rfl, .inl rfl, by simp [ofScript]⟩, fun turn hturn => by cases hturn⟩
  | loop hc h ih => exact h.placed hc.sound ih
  | call hc h ih => exact h.placed ih
  | write _ h ih =>
    obtain ⟨store, rfl⟩ := setVariable_eq h
    refine ⟨?_, ih.turn⟩
    rcases ih.place with hat | huntouched
    · exact .inl ⟨hat.agrees, hat.resolves⟩
    · exact .inr ⟨huntouched.head, huntouched.location, huntouched.phase, huntouched.events⟩

/-- **The location is always in order.** In every state the host sees the current location, and a
step is there; only in a conversation where nothing was evaluated may the first step of the entry
page be missing. So only that step is ever looked up in vain, a turn is given the following step of
its page or none, and the index after a current one can be counted. -/
theorem head_valid {c : Conversation σ} (hc : Reachable script c) :
    c.location = c.head ∧
    (∀ l, c.head = some l → (script.document.step? l).isSome ∨
      l = script.entry ∧ script.initial = some l ∧ c.Untouched script) ∧
    (∀ fault, script.document.current c.head = .error fault →
      fault = .navigation none script.entry.text ∧ c.head = some script.entry ∧
        c.Untouched script) ∧
    (∀ next, script.document.following? c.head = some next → ∃ l, c.head = some l ∧
      next.page = l.page ∧ next.index = l.index + 1 ∧ (script.document.step? next).isSome) ∧
    ((∀ p ∈ script.document.pages, p.2.length < indexBound) →
      ∀ l, c.head = some l → l.successor.index < indexBound) := by
  have hplaced := hc.placed
  have hresolves : ∀ l, c.head = some l → (script.document.step? l).isSome ∨
      l = script.entry ∧ script.initial = some l ∧ c.Untouched script := by
    intro l hl
    rcases hplaced.place with hat | huntouched
    · exact .inl (hat.resolves l hl)
    · have hinitial : script.initial = some l := huntouched.head.symm.trans hl
      exact .inr ⟨Script.eq_entry_of_initial hinitial, hinitial, huntouched⟩
  refine ⟨hplaced.agrees, hresolves, fun fault hfault => ?_, fun next hnext => ?_,
    fun hpages l hl => ?_⟩
  · obtain ⟨l, hl, hstep, rfl⟩ := Document.current_eq_error hfault
    rcases hresolves l hl with hsome | ⟨rfl, -, huntouched⟩
    · rw [hstep] at hsome
      cases hsome
    · exact ⟨rfl, hl, huntouched⟩
  · obtain ⟨l, hl, rfl, hstep⟩ := Document.following?_eq_some hnext
    exact ⟨l, hl, rfl, rfl, hstep⟩
  · show l.index + 1 < indexBound
    rcases hresolves l hl with hsome | ⟨rfl, -, -⟩
    · obtain ⟨steps, hpage, hlt⟩ := Document.index_lt_of_step? hsome
      have hlength : steps.length < indexBound := hpages _ (Keyed.mem_of_get? hpage)
      omega
    · show 0 + 1 < indexBound
      decide

/-- A script whose document lacks the entry page. -/
def strayScript : Script Unit where
  document := { pages := [("/other", [{}, {}])] }
  settings := {}
  host := ⟨[], fun _ world => (.error "offline", world)⟩

/-- The conversation before it is started. -/
def stray : Conversation Unit := .ofScript strayScript .empty ()

/-- The conversation once the host has moved it to the page there is. -/
def strayMoved : Conversation Unit := stray.place (some (.start "/other"))

/-- The conversation once it has then been started. -/
def strayStarted : Conversation Unit := { strayMoved.setStatus .busy with phase := .ready }

/-- The conversation after the first step of the page. -/
def strayPast : Conversation Unit := settleFrom strayScript 0 1 strayStarted

/-- The conversation after the last step of the page, which leads to the entry page. -/
def strayLost : Conversation Unit := settleFrom strayScript 0 1 strayPast

theorem reachable_strayStarted : Reachable strayScript strayStarted :=
  .call (.call (.initial .empty ()) (.navigate (some (.start "/other")) rfl)) (.start rfl)

theorem reachable_strayPast : Reachable strayScript strayPast := by
  obtain ⟨label, hstep⟩ : ∃ label, Advances strayScript 0 strayStarted label strayPast :=
    advances_of_advance? rfl
  exact .loop reachable_strayStarted hstep

theorem reachable_strayLost : Reachable strayScript strayLost := by
  obtain ⟨label, hstep⟩ : ∃ label, Advances strayScript 0 strayPast label strayLost :=
    advances_of_advance? rfl
  exact .loop reachable_strayPast hstep

/-- At first the conversation is where no step is; once it is moved and started, it is at a step. The
turn of that step is given the following one and leads there, and the turn of the last one leads to
where no step is, so that the conversation is nowhere. -/
theorem head_valid_stray :
    (stray.location = some strayScript.entry ∧
      strayScript.document.current stray.head =
        .error (.navigation none strayScript.entry.text) ∧ stray.Untouched strayScript) ∧
    (strayStarted.location = some (.start "/other") ∧
      (strayScript.document.step? (.start "/other")).isSome) ∧
    (strayScript.document.following? strayStarted.head = some ⟨"/other", 1⟩ ∧
      (strayScript.document.step? ⟨"/other", 1⟩).isSome ∧
      strayPast.location = strayPast.head ∧ strayPast.head = some ⟨"/other", 1⟩ ∧
      (Location.successor ⟨"/other", 1⟩).index < indexBound) ∧
    strayLost.location = strayLost.head ∧ strayLost.head = none := by
  obtain ⟨hagrees, -, hlost, -⟩ := head_valid (.initial .empty () : Reachable strayScript stray)
  obtain ⟨hagrees', hresolves, -, hfollowing, -⟩ := head_valid reachable_strayStarted
  obtain ⟨hagrees'', -, -, -, hbound⟩ := head_valid reachable_strayPast
  refine ⟨⟨hagrees, rfl, ?_⟩, ⟨hagrees', ?_⟩, ⟨rfl, ?_, hagrees'', rfl, ?_⟩, ?_, rfl⟩
  · exact (hlost _ rfl).2.2
  · rcases hresolves (.start "/other") rfl with hsome | ⟨hentry, -, -⟩
    · exact hsome
    · exact absurd hentry (by decide)
  · obtain ⟨l, -, -, -, hstep⟩ := hfollowing ⟨"/other", 1⟩ rfl
    exact hstep
  · exact hbound (by decide) ⟨"/other", 1⟩ rfl
  · exact (head_valid reachable_strayLost).1

end Conversation

end Dialogue
