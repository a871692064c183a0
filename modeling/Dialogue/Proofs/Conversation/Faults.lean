import Dialogue.Proofs.Conversation.Head
/-!
# What a conversation reports

The faults that a conversation has reported are among its events. A part of a small step reports
nothing, or a few faults that are known from where it starts: most parts only move the conversation,
and they report a fault when there is no step to move to.

## Main definitions

- `Conversation.faults` — the faults that were reported
- `Conversation.Reports` — every fault that is new has some property

## Main statements

- `Conversation.Reports.absorb`, `Conversation.Reports.moveOn`, `Conversation.Reports.finish` — a
  turn that goes on, and one that is over
- `Conversation.Reports.goIdle`, `Conversation.Reports.enter`
-/

namespace Dialogue

variable {σ : Type} {script : Script σ}

/-- The fault that an event tells of. -/
def Event.fault? : Event → Option Fault
  | .fault told => some told
  | _ => none

/-- The fault that comes of going to a text: it is no location, or no step. -/
def Script.FailsOn (script : Script σ) (text : String) (fault : Fault) : Prop :=
  (Location.parse? text = none ∧ fault = .invalidLocation text) ∨
    ∃ l source, Location.parse? text = some l ∧ script.document.step? l = none ∧
      fault = .navigation source l.text

namespace Conversation

/-- The faults that were reported. -/
def faults (c : Conversation σ) : List Fault := c.events.toList.filterMap Event.fault?

theorem mem_faults {c : Conversation σ} {fault : Fault} :
    fault ∈ c.faults ↔ .fault fault ∈ c.events := by
  rw [faults, List.mem_filterMap]
  constructor
  · rintro ⟨event, hevent, hfault⟩
    cases event with
    | fault other =>
      obtain rfl := Option.some.inj hfault
      exact Array.mem_toList_iff.1 hevent
    | _ => cases hfault
  · exact fun h => ⟨_, Array.mem_toList_iff.2 h, rfl⟩

/-- Every fault that is new has the property. -/
def Reports (P : Fault → Prop) (c c' : Conversation σ) : Prop :=
  ∀ fault ∈ c'.faults, fault ∈ c.faults ∨ P fault

namespace Reports

variable {P : Fault → Prop} {c c' c'' : Conversation σ}

theorem of_faults (h : c'.faults = c.faults) : Reports P c c' := by
  intro fault hfault
  rw [h] at hfault
  exact .inl hfault

theorem trans (h : Reports P c c') (h' : Reports P c' c'') : Reports P c c'' := by
  intro fault hfault
  rcases h' fault hfault with hfault | hfault
  · exact h fault hfault
  · exact .inr hfault

end Reports

/-! ### Parts that report nothing -/

/-- Another event is no fault. -/
theorem faults_emit (c : Conversation σ) {event : Event} (h : event.fault? = none) :
    (c.emit event).faults = c.faults := by
  rw [emit, faults, Array.toList_push, List.filterMap_append, List.filterMap_cons, h,
    List.filterMap_nil, List.append_nil, faults]

theorem faults_setStatus (c : Conversation σ) (status : Status) :
    (c.setStatus status).faults = c.faults := by
  unfold setStatus
  split
  · rfl
  · exact faults_emit { c with status } rfl

theorem faults_suspend (c : Conversation σ) (status : Status) :
    (c.suspend status).faults = c.faults :=
  faults_setStatus { c with yields := c.yields + 1 } status

theorem faults_print (script : Script σ) (c : Conversation σ) (text : String) :
    (c.print script text).faults = c.faults :=
  faults_emit _ rfl

theorem faults_received (script : Script σ) (c : Conversation σ) (text : String) :
    (c.received script text).faults = c.faults :=
  (faults_emit _ rfl).trans (faults_setStatus c .busy)

theorem faults_endLoop (c : Conversation σ) : c.endLoop.faults = c.faults :=
  faults_suspend { c with queue := [], phase := .off } .paused

theorem faults_printRejection (script : Script σ) (c : Conversation σ) (turn : Turn)
    (failed : Bool) : (c.printRejection script turn failed).faults = c.faults := by
  unfold printRejection
  split
  · exact faults_print script c _
  · rfl

theorem faults_ask (script : Script σ) (clock : Nat) (turn : Suspended) (c : Conversation σ) :
    (c.ask script clock turn).faults = c.faults := by
  have hsuspend := faults_suspend c .waitingInput
  unfold ask
  dsimp only
  split
  · exact hsuspend
  · exact hsuspend
  · split <;> exact hsuspend

/-- Taking up a turn reports nothing. -/
theorem Resumes.faults {clock : Nat} {c d : Conversation σ} {turn : Suspended}
    (h : Resumes script clock c turn d) : d.faults = c.faults := by
  cases h with
  | begin => rfl
  | answer => exact faults_received script _ _
  | wake => rfl

/-! ### Parts that may report a fault -/

namespace Reports

variable {P : Fault → Prop}

theorem report (c : Conversation σ) {fault : Fault} (h : P fault) : Reports P c (c.report fault) := by
  intro other hother
  rw [mem_faults] at hother
  rcases Array.mem_push.1 hother with hother | hother
  · exact .inl (mem_faults.2 hother)
  · obtain rfl := Event.fault.inj hother
    exact .inr h

theorem reportAny (c : Conversation σ) {fault : Option Fault} (h : ∀ f, fault = some f → P f) :
    Reports P c (c.reportAny fault) := by
  cases fault with
  | none => exact of_faults rfl
  | some fault => exact report c (h fault rfl)

/-- What a turn has told is reported. -/
theorem absorb (c : Conversation σ) {scene : Scene σ}
    (h : ∀ fault, .reported fault ∈ scene.notices → P fault) :
    Reports P c (c.absorb script scene) := by
  intro fault hfault
  rw [mem_faults, absorb_eq] at hfault
  rcases Array.mem_append.1 hfault with hfault | hfault
  · exact .inl (mem_faults.2 hfault)
  · obtain ⟨notice, hnotice, heq⟩ := Array.mem_map.1 hfault
    cases notice with
    | printed text => cases heq
    | reported other =>
      obtain rfl := Event.fault.inj heq
      exact .inr (h other hnotice)

/-- Following a target reports that there is no step. -/
theorem follow (c : Conversation σ) {target : Location}
    (h : script.document.step? target = none → ∀ source, P (.navigation source target.text)) :
    Reports P c (c.follow script target) := by
  unfold Conversation.follow Document.navigate
  dsimp only
  cases hstep : script.document.step? target with
  | some step => exact of_faults rfl
  | none => exact report c (h hstep _)

/-- Moving on reports that there is no step to move to. -/
theorem moveOn (hentry : (script.document.step? script.entry).isSome) (c : Conversation σ)
    (location : Location) {target : Option Location}
    (h : ∀ l, target = some l → script.document.step? l = none →
      ∀ source, P (.navigation source l.text)) :
    Reports P c (c.moveOn script location target) := by
  cases target with
  | some target => exact follow c (h target rfl)
  | none =>
    have hpage : Reports P c (c.emit (.page location.page)) := of_faults (faults_emit c rfl)
    unfold Conversation.moveOn leavePage
    dsimp only
    split
    · exact hpage
    · refine hpage.trans (follow _ fun hnone => ?_)
      rw [hnone] at hentry
      cases hentry

/-- A turn that is over reports its fault, and that there is no step to move to. -/
theorem finish (hentry : (script.document.step? script.entry).isSome) (before : Option Json)
    {turn : Turn} (hturn : turn.interrupted = none) {fault : Option Fault} (c : Conversation σ)
    (hfault : ∀ f, fault = some f → P f)
    (h : ∀ l, turn.destination fault.isSome = some l → script.document.step? l = none →
      ∀ source, P (.navigation source l.text)) :
    Reports P c (c.finish script before turn fault) := by
  unfold Conversation.finish complete
  simp only [hturn]
  have hreport : Reports P c (({ c with phase := .ready } : Conversation σ).reportAny fault) :=
    reportAny { c with phase := .ready } hfault
  refine (hreport.trans (of_faults ?_)).trans (moveOn hentry _ _ h)
  exact (faults_emit _ rfl).trans (faults_printRejection script _ turn fault.isSome)

/-- Entering at a target reports that the target is no location or no step. -/
theorem enter {text : String} (c : Conversation σ)
    (h : ∀ target, entryTarget? script text = some target → ∀ fault, script.FailsOn target fault →
      P fault) : Reports P c (c.enter script text) := by
  unfold Conversation.enter
  dsimp only
  cases htarget : entryTarget? script text with
  | none => exact of_faults rfl
  | some target =>
    have hfails := h target htarget
    simp only [Location.read]
    cases hparse : Location.parse? target with
    | none => exact report { c with phase := .ready } (hfails _ (.inl ⟨hparse, rfl⟩))
    | some l =>
      simp only [Except.bind, Document.navigate]
      cases hstep : script.document.step? l with
      | some step => exact of_faults rfl
      | none =>
        exact report { c with phase := .ready } (hfails _ (.inr ⟨l, c.head, hparse, hstep, rfl⟩))

end Reports

/-! ### Turns that are abandoned -/

/-- A turn that is cut off reports nothing. -/
theorem faults_abandon {turn : Suspended} (hturn : turn.turn.interrupted = none)
    (c : Conversation σ) : (Conversation.abandon script turn .aborted c).faults = c.faults := by
  rw [abandon_eq_emit script hturn]
  exact faults_emit _ rfl

/-- An idle user is led to the idle page without a fault when that page has a step. -/
theorem faults_goIdle {turn : Suspended} (hturn : turn.turn.interrupted = none)
    (hidle : (script.document.page? script.settings.idlePage).isSome →
      (script.document.step? script.idle).isSome) (c : Conversation σ) :
    (c.goIdle script turn).faults = c.faults := by
  unfold Conversation.goIdle
  dsimp only
  split
  · next hpage =>
    rw [abandon_eq_emit script hturn]
    simp only [giveWay, detour, Document.navigate, if_pos (hidle hpage)]
    refine (faults_emit _ rfl).trans ?_
    exact (faults_setStatus _ .busy).trans (faults_emit c rfl)
  · exact faults_emit c rfl

/-- A call of the host reports nothing. -/
theorem Calls.faults {c c' : Conversation σ} (h : Calls script c c') : c'.faults = c.faults := by
  cases h with
  | start h =>
    unfold Conversation.start at h
    split at h
    · cases h
    · obtain rfl := Except.ok.inj h
      exact faults_setStatus c .busy
  | input text h =>
    unfold Conversation.input at h
    split at h
    · obtain rfl := Except.ok.inj h
      exact faults_setStatus c .busy
    · cases h
  | navigate target h =>
    obtain ⟨-, head, rfl⟩ := navigate_eq h
    rfl
  | cancel =>
    rcases cancel_eq c with hcancel | ⟨-, hcancel⟩ | hcancel <;> rw [hcancel] <;> rfl
  | markPaused => exact faults_setStatus c .paused
  | exit => exact faults_emit c rfl

end Conversation

end Dialogue
