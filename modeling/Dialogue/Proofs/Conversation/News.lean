import Dialogue.Proofs.Conversation.Basic
/-!
# What the parts of a small step tell

Each part of a small step tells the host of events of a few kinds. What holds of all events of these
kinds holds of everything that the part tells.

## Main definitions

- `Conversation.Adds` — what is told has a property
- `Event.HoldsOfEnds` — a property of whatever the end of a turn can tell

## Main statements

- `Conversation.Adds.absorb`, `Conversation.Adds.ask` — a turn that goes on, or has to wait
- `Conversation.Adds.finish`, `Conversation.Adds.detour` — a turn that ends
- `Conversation.Adds.enter` — an input that enters
-/

namespace Dialogue

variable {σ : Type}

/-- The property holds of whatever a completed turn can tell at its end, its own fault aside. -/
structure Event.HoldsOfEnds (p : Event → Prop) : Prop where
  output : ∀ text, p (.output text)
  step : ∀ location step next patches, p (.step location step next patches)
  page : ∀ id, p (.page id)
  navigation : ∀ source target, p (.fault (.navigation source target))

namespace Conversation

variable {p : Event → Prop} {c c' c'' : Conversation σ} (script : Script σ)

/-- Whatever the host is told in between has the property. -/
def Adds (p : Event → Prop) (c c' : Conversation σ) : Prop :=
  ∃ news : Array Event, c'.events = c.events ++ news ∧ ∀ e ∈ news, p e

namespace Adds

theorem of_events (h : c'.events = c.events) : Adds p c c' := ⟨#[], by simp [h], by simp⟩

theorem trans (h : Adds p c c') (h' : Adds p c' c'') : Adds p c c'' := by
  obtain ⟨news, hevents, hnews⟩ := h
  obtain ⟨news', hevents', hnews'⟩ := h'
  refine ⟨news ++ news', by rw [hevents', hevents, Array.append_assoc], fun e he => ?_⟩
  exact (Array.mem_append.1 he).elim (hnews e) (hnews' e)

theorem emit (c : Conversation σ) {event : Event} (h : p event) : Adds p c (c.emit event) :=
  ⟨#[event], Array.push_eq_append, fun e he => by rwa [Array.mem_singleton.1 he]⟩

/-! ### The status and the inputs -/

theorem setStatus (hstatus : ∀ status, p (.status status)) (c : Conversation σ) (status : Status) :
    Adds p c (c.setStatus status) := by
  unfold Conversation.setStatus
  split
  · exact of_events rfl
  · exact emit { c with status } (hstatus status)

theorem suspend (hstatus : ∀ status, p (.status status)) (c : Conversation σ) (status : Status) :
    Adds p c (c.suspend status) :=
  setStatus hstatus { c with yields := c.yields + 1 } status

theorem endLoop (hstatus : ∀ status, p (.status status)) (c : Conversation σ) :
    Adds p c c.endLoop :=
  suspend hstatus { c with queue := [], phase := .off } .paused

theorem received (hstatus : ∀ status, p (.status status)) {text : String} (hinput : p (.input text))
    (c : Conversation σ) : Adds p c (c.received script text) :=
  (setStatus hstatus c .busy).trans (emit { c.setStatus .busy with
    inputs := if script.settings.recordInputs then (c.setStatus .busy).inputs.push text
      else (c.setStatus .busy).inputs } hinput)

/-! ### A turn that goes on -/

/-- What a turn has said and reported is told. -/
theorem absorb (houtput : ∀ text, p (.output text)) (c : Conversation σ) {scene : Scene σ}
    (hfault : ∀ fault, .reported fault ∈ scene.notices → p (.fault fault)) :
    Adds p c (c.absorb script scene) := by
  rw [absorb_eq]
  refine ⟨scene.notices.map Notice.event, rfl, fun e he => ?_⟩
  obtain ⟨notice, hnotice, rfl⟩ := Array.mem_map.1 he
  cases notice with
  | printed text => exact houtput text
  | reported fault => exact hfault fault hnotice

theorem ask (hstatus : ∀ status, p (.status status)) (clock : Nat) (turn : Suspended)
    (c : Conversation σ) : Adds p c (c.ask script clock turn) := by
  have hsuspend := suspend hstatus c .waitingInput
  unfold Conversation.ask
  dsimp only
  split
  · exact hsuspend
  · exact hsuspend
  · split <;> exact hsuspend

/-! ### A turn that ends -/

theorem reportAny (c : Conversation σ) {fault : Option Fault}
    (h : ∀ f, fault = some f → p (.fault f)) : Adds p c (c.reportAny fault) := by
  cases fault with
  | none => exact of_events rfl
  | some fault => exact emit c (h fault rfl)

theorem follow (hnavigation : ∀ source target, p (.fault (.navigation source target)))
    (c : Conversation σ) (target : Location) : Adds p c (c.follow script target) := by
  unfold Conversation.follow Document.navigate
  dsimp only
  cases script.document.step? target with
  | some step => exact of_events rfl
  | none => exact emit c (hnavigation _ _)

theorem moveOn (hp : Event.HoldsOfEnds p) (c : Conversation σ) (location : Location)
    (target : Option Location) : Adds p c (c.moveOn script location target) := by
  cases target with
  | some target => exact follow script hp.navigation c target
  | none =>
    have hpage : Adds p c (c.emit (.page location.page)) := emit c (hp.page _)
    unfold Conversation.moveOn leavePage
    dsimp only
    split
    · exact hpage
    · exact hpage.trans (follow script hp.navigation _ _)

theorem printRejection (houtput : ∀ text, p (.output text)) (c : Conversation σ) (turn : Turn)
    (failed : Bool) : Adds p c (c.printRejection script turn failed) := by
  unfold Conversation.printRejection
  split
  · next message _ _ =>
    exact emit { c with outputs := if script.settings.recordOutputs then c.outputs.push message
      else c.outputs } (houtput message)
  · exact of_events rfl

/-- The end of a turn that is completed. -/
theorem finish (hp : Event.HoldsOfEnds p) (before : Option Json) {turn : Turn}
    (hturn : turn.interrupted = none) {fault : Option Fault} (c : Conversation σ)
    (hfault : ∀ f, fault = some f → p (.fault f)) :
    Adds p c (c.finish script before turn fault) := by
  have hreport : Adds p c (({ c with phase := .ready } : Conversation σ).reportAny fault) :=
    reportAny { c with phase := .ready } hfault
  unfold Conversation.finish complete
  simp only [hturn]
  refine ((hreport.trans ?_).trans (emit _ (hp.step _ _ _ _))).trans (moveOn script hp _ _ _)
  exact printRejection script hp.output (count (({ c with phase := .ready } :
    Conversation σ).reportAny fault) turn) turn fault.isSome

/-- A detour to the idle page. -/
theorem detour (hnavigation : ∀ source target, p (.fault (.navigation source target)))
    (c : Conversation σ) (location : Location) : Adds p c (c.detour script location) := by
  unfold Conversation.detour Document.navigate
  dsimp only
  cases script.document.step? script.idle with
  | some step => exact of_events rfl
  | none =>
    exact emit { c with
      store := c.store.set returnVariable (.text location.text), freeSteps := 0 } (hnavigation _ _)

/-- Entering at the target of an input. -/
theorem enter (hp : Event.HoldsOfEnds p) (hunreadable : ∀ text, p (.fault (.invalidLocation text)))
    (text : String) (c : Conversation σ) : Adds p c (c.enter script text) := by
  unfold Conversation.enter
  dsimp only
  cases entryTarget? script text with
  | none => exact of_events rfl
  | some target =>
    simp only [Location.read]
    cases Location.parse? target with
    | none => exact emit { c with phase := .ready } (hunreadable _)
    | some l =>
      simp only [Except.bind, Document.navigate]
      cases script.document.step? l with
      | some step => exact of_events rfl
      | none => exact emit { c with phase := .ready } (hp.navigation _ _)

end Adds

end Conversation

end Dialogue
