import Dialogue.Proofs.Conversation.Faults
import Dialogue.Proofs.Conversation.Freefall
import Dialogue.Proofs.Conversation.News
import Dialogue.Proofs.Conversation.Pause
import Dialogue.Proofs.Turn.Faults
/-!
# The row of steps before a freefall

A conversation counts the steps that ran in a row without the user. The count is exact: it is the
number of turns that were completed without asking since the row last started over, and only a
completed turn that asked, an entry, a detour, a navigation of the host or a freefall lets it start
over. A freefall is reported of a step that cannot wait, after a row as long as the limit.

## Main definitions

- `Mark` — what a chronicle notes
- `Mark.row` — the steps since the row last started over
- `Conversation.notes`, `Conversation.Chronicle` — what is noted of a small step, and of a whole
  conversation from its beginning

## Main statements

- `Conversation.Advances.counts` — what a small step does with the count
- `Conversation.Chronicle.freeSteps_eq` — the count is exact
- `Conversation.freefall_exact`
-/

namespace Dialogue

variable {σ : Type} {script : Script σ} {clock : Nat}

/-- What a chronicle notes. -/
inductive Mark where
  /-- A turn is completed, and has asked the user or not. -/
  | completed (location : Location) (asked : Bool)
  /-- A turn is abandoned since the conversation is being paused. -/
  | cutOff (location : Location)
  /-- A turn is abandoned for the idle page. -/
  | detoured
  /-- An input leads to a step while there was none. -/
  | entered
  /-- The host moves the conversation. -/
  | navigated
  | fell (limit : Nat) (location : Option Location)
  | started
  | paused
  deriving DecidableEq, Repr

namespace Mark

/-- Whether the row of steps starts over. -/
def resets : Mark → Bool
  | completed _ asked => asked
  | detoured => true
  | entered => true
  | navigated => true
  | fell .. => true
  | _ => false

/-- The step that ran without the user. -/
def free? : Mark → Option Location
  | completed location false => some location
  | _ => none

/-- The steps that ran without the user since the row last started over. -/
def row (marks : List Mark) : List Location :=
  ((marks.reverse.takeWhile fun mark => !mark.resets).reverse).filterMap free?

theorem row_concat (marks : List Mark) (mark : Mark) :
    row (marks ++ [mark]) = if mark.resets then [] else row marks ++ mark.free?.toList := by
  unfold row
  rw [List.reverse_append, List.reverse_singleton, List.singleton_append, List.takeWhile_cons]
  cases mark.resets with
  | true => rfl
  | false =>
    simp only [Bool.not_false, if_true, Bool.false_eq_true, if_false, List.reverse_cons,
      List.filterMap_append]
    cases hfree : mark.free? <;> simp [hfree]

end Mark

/-- What a chronicle notes of an event. -/
def Event.mark? : Event → Option Mark
  | .interrupted location .aborted _ _ => some (.cutOff location)
  | .interrupted _ .idle _ _ => some .detoured
  | .fault (.freefall limit location) => some (.fell limit location)
  | _ => none

/-- Nothing is noted of the event. -/
def Event.IsUnmarked (event : Event) : Prop := event.mark? = none

theorem Event.isUnmarked_status (status : Status) : (Event.status status).IsUnmarked := rfl

theorem Event.isUnmarked_input (text : String) : (Event.input text).IsUnmarked := rfl

theorem Event.isUnmarked_output (text : String) : (Event.output text).IsUnmarked := rfl

theorem Event.isUnmarked_navigation (source : Option Location) (target : String) :
    (Event.fault (.navigation source target)).IsUnmarked := rfl

theorem Fault.isUnmarked {fault : Fault} (h : fault.isOfTurn) : (Event.fault fault).IsUnmarked := by
  cases fault <;> first | rfl | cases h

/-- The end of a completed turn is noted of the turn, not of its events. -/
theorem Event.holdsOfEnds_isUnmarked : Event.HoldsOfEnds Event.IsUnmarked :=
  ⟨Event.isUnmarked_output, fun _ _ _ _ => rfl, fun _ => rfl, Event.isUnmarked_navigation⟩

/-- Whether the loop waits for any input. -/
def Phase.isEntering : Phase → Bool
  | .entering => true
  | _ => false

theorem Phase.eq_entering {phase : Phase} (h : phase.isEntering) : phase = .entering := by
  cases phase with
  | entering => rfl
  | _ => cases h

namespace Conversation

variable {c c' d : Conversation σ} {label : Option Turn}

/-- What is noted of a small step: the turn that it completes, whether an input leads to a step, and
what its events tell. -/
def notes (c : Conversation σ) (label : Option Turn) (c' : Conversation σ) : List Mark :=
  (label.map fun turn => Mark.completed turn.location turn.inputRequested).toList ++
    (if c.phase.isEntering && c'.head.isSome then [.entered] else []) ++
    (c.since c').filterMap Event.mark?

/-! ### What is noted of a small step -/

theorem marks_since (h : Adds Event.IsUnmarked c d) {event : Event}
    (hevents : c'.events = d.events.push event) :
    (c.since c').filterMap Event.mark? = event.mark?.toList := by
  obtain ⟨news, hnews, hunmarked⟩ := h
  have htold : c'.events.toList = c.events.toList ++ (news.toList ++ [event]) := by
    rw [hevents, hnews]
    simp
  rw [since_of_events htold, List.filterMap_append, Event.filterMap_eq_nil hunmarked]
  cases hmark : event.mark? <;> simp [hmark]

theorem marks_since_of_adds (h : Adds Event.IsUnmarked c c') :
    (c.since c').filterMap Event.mark? = [] := by
  obtain ⟨news, hnews, hunmarked⟩ := h
  have htold : c'.events.toList = c.events.toList ++ news.toList := by
    rw [hnews, Array.toList_append]
  rw [since_of_events htold, Event.filterMap_eq_nil hunmarked]

theorem notes_none (hentered : c.phase = .entering → c'.head = none) :
    c.notes none c' = (c.since c').filterMap Event.mark? := by
  have hnot : (c.phase.isEntering && c'.head.isSome) = false := by
    cases hphase : c.phase.isEntering with
    | false => rfl
    | true => rw [hentered (Phase.eq_entering hphase)]; rfl
  simp [notes, hnot]

/-- What a small step does with the count, by what is noted of it. -/
inductive Counts (script : Script σ) (c c' : Conversation σ) : List Mark → Prop where
  | passes (hfree : c'.freeSteps = c.freeSteps) : Counts script c c' []
  | completes (location : Location) (asked : Bool)
      (hfree : c'.freeSteps = if asked then 0 else c.freeSteps + 1) :
      Counts script c c' [.completed location asked]
  | cutsOff (location : Location) (hfree : c'.freeSteps = c.freeSteps) :
      Counts script c c' [.cutOff location]
  | detours (hfree : c'.freeSteps = 0) : Counts script c c' [.detoured]
  | enters (hfree : c'.freeSteps = 0) : Counts script c c' [.entered]
  | falls {location : Location} {step : Step} (hhead : c.head = some location)
      (hstep : script.document.step? location = some step) (hfall : c.inFreefall script step)
      (hfree : c'.freeSteps = 0) :
      Counts script c c' [.fell script.settings.freefallLimit (some location)]

/-- A small step of which nothing is noted. -/
theorem Counts.of_adds (hentered : c.phase = .entering → c'.head = none)
    (hadds : Adds Event.IsUnmarked c c') (hfree : c'.freeSteps = c.freeSteps) :
    Counts script c c' (c.notes none c') := by
  rw [notes_none hentered, marks_since_of_adds hadds]
  exact .passes hfree

/-- Receiving an input from the queue tells of nothing that is noted. -/
theorem adds_received (script : Script σ) (c : Conversation σ) (text : String) (rest : List String) :
    Adds Event.IsUnmarked c (({ c with queue := rest } : Conversation σ).received script text) :=
  .trans (.of_events rfl) (.received script Event.isUnmarked_status (Event.isUnmarked_input text)
    { c with queue := rest })

/-- Taking up a turn tells of nothing that is noted. -/
theorem Resumes.adds {turn : Suspended} (h : Resumes script clock c turn d) :
    Adds Event.IsUnmarked c d := by
  cases h with
  | begin => exact .of_events rfl
  | @answer turn deadline text rest => exact adds_received script c text rest
  | wake => exact .of_events rfl

theorem Resumes.phase_ne_entering {turn : Suspended} (h : Resumes script clock c turn d) :
    c.phase ≠ .entering := by
  intro hentering
  cases h with
  | begin hphase => cases hentering.symm.trans hphase
  | answer hphase => cases hentering.symm.trans hphase
  | wake hphase => cases hentering.symm.trans hphase

theorem Resumes.freeSteps_eq {turn : Suspended} (h : Resumes script clock c turn d) :
    d.freeSteps = c.freeSteps := by
  obtain ⟨status, queue, inputs, news, rfl, -⟩ := h.eq
  rfl

/-- A turn that is carried on tells of nothing that is noted. -/
theorem Resumes.adds_absorb {turn : Suspended} {after : Turn} {progress : Progress}
    {scene : Scene σ} (h : Resumes script clock c turn d)
    (hrun : turn.turn.run script.host turn.left { store := d.store, world := d.world } =
      (progress, after, scene)) : Adds Event.IsUnmarked c (d.absorb script scene) := by
  have hblames := (Turn.run_blames script.host turn.left turn.turn
    { store := d.store, world := d.world }).1
  rw [hrun] at hblames
  refine h.adds.trans (.absorb script Event.isUnmarked_output d fun fault hfault => Fault.isUnmarked ?_)
  exact (hblames fault hfault).resolve_left (Array.not_mem_empty _)

/-- An input leads to a step, and the row starts over; or the loop has none, as before. -/
theorem enter_cases (script : Script σ) (text : String) (c : Conversation σ) :
    ((c.enter script text).head.isSome ∧ (c.enter script text).freeSteps = 0) ∨
      (c.enter script text).head = c.head ∧ (c.enter script text).freeSteps = c.freeSteps := by
  unfold enter
  dsimp only
  cases entryTarget? script text with
  | none => exact .inr ⟨rfl, rfl⟩
  | some target =>
    simp only [Location.read]
    cases Location.parse? target with
    | none => exact .inr ⟨rfl, rfl⟩
    | some l =>
      simp only [Except.bind, Document.navigate]
      cases script.document.step? l with
      | some step => exact .inl ⟨rfl, rfl⟩
      | none => exact .inr ⟨rfl, rfl⟩

/-- A user who is led to the idle page lets the row start over. -/
theorem goIdle_counts {turn : Suspended} (hturn : turn.turn.interrupted = none)
    (hphase : c.phase ≠ .entering) :
    Counts script c (c.goIdle script turn) (c.notes none (c.goIdle script turn)) := by
  obtain ⟨step, hidle | hidle⟩ := goIdle_eq_emit script hturn c <;> rw [hidle]
  · exact .of_adds (fun h => absurd h hphase) (.emit c rfl) rfl
  · have htold : Adds Event.IsUnmarked c (c.emit (.idle turn.turn.location step)) := .emit c rfl
    have hbusy := htold.trans (.setStatus Event.isUnmarked_status _ .busy)
    generalize (c.emit (.idle turn.turn.location step)).setStatus .busy = d at hbusy
    have hdetour : Adds Event.IsUnmarked c
        (detour script { d with phase := .ready } turn.turn.location) :=
      hbusy.trans (.trans (.of_events rfl)
        (.detour script Event.isUnmarked_navigation { d with phase := .ready } _))
    obtain ⟨head, news, hled, -⟩ := detour_eq script { d with phase := .ready } turn.turn.location
    rw [notes_none fun h => absurd h hphase, marks_since hdetour rfl]
    refine .detours ?_
    show (detour script { d with phase := .ready } turn.turn.location).freeSteps = 0
    rw [hled]

/-- **What a small step does with the count.** -/
theorem Advances.counts (h : Advances script clock c label c') (hc : Reachable script c) :
    Counts script c c' (c.notes label c') := by
  have hsound := hc.sound
  cases h with
  | stop hphase hcancelled =>
    have hadds : Adds Event.IsUnmarked c c.endLoop := .endLoop Event.isUnmarked_status c
    obtain ⟨news, hend, -⟩ := endLoop_eq c
    rw [hend] at hadds ⊢
    exact .of_adds hc.head_of_entering hadds rfl
  | wait hphase hcancelled hhead =>
    have hadds : Adds Event.IsUnmarked c (c.suspend .waitingInput) := .suspend Event.isUnmarked_status c _
    obtain ⟨news, hsuspend, -⟩ := suspend_eq c .waitingInput
    rw [hsuspend] at hadds ⊢
    exact .of_adds (fun _ => hhead) hadds rfl
  | @lost location hphase hcancelled hhead hstep =>
    have hadds : Adds Event.IsUnmarked c (c.report (.navigation none location.text)) :=
      .emit c rfl
    exact .of_adds (fun _ => rfl) hadds rfl
  | @freefall location step hphase hcancelled hhead hstep hfall =>
    rw [notes_none fun _ => rfl, marks_since (d := c) (.of_events rfl) rfl]
    exact .falls hhead hstep hfall rfl
  | @enter text rest hphase hqueue =>
    have hreceived := adds_received script c text rest
    obtain ⟨inputs, news, heq, -⟩ := received_eq script { c with queue := rest } text
    have hhead : (({ c with queue := rest } : Conversation σ).received script text).head = none := by
      rw [heq]
      exact hc.head_of_entering hphase
    have hfree : (({ c with queue := rest } : Conversation σ).received script text).freeSteps =
        c.freeSteps := by rw [heq]
    generalize ({ c with queue := rest } : Conversation σ).received script text = d
      at hreceived hhead hfree ⊢
    have hadds := hreceived.trans
      (.enter script Event.holdsOfEnds_isUnmarked (fun _ => rfl) text d)
    -- An input that leads nowhere is no entry: the loop has no step, as before.
    rcases enter_cases script text d with ⟨hsome, hzero⟩ | ⟨hnone, hsame⟩
    · have hnotes : c.notes none (d.enter script text) = [.entered] := by
        simp [notes, hphase, Phase.isEntering, hsome, marks_since_of_adds hadds]
      rw [hnotes]
      exact .enters hzero
    · exact .of_adds (fun _ => hnone.trans hhead) hadds (hsame.trans hfree)
  | @idle turn deadline hphase hdeadline =>
    have hturn : c.phase.suspended? = some turn := Phase.suspended?_of_asking hphase
    refine goIdle_counts (hsound.within turn hturn).interrupted fun h => ?_
    cases h.symm.trans hphase
  | @abandon turn hphase hcancelled =>
    rw [abandon_eq_emit script (hsound.within turn hphase).interrupted]
    have hentering : c.phase ≠ .entering := by
      intro h
      rw [h] at hphase
      cases hphase
    rw [notes_none fun h => absurd h hentering,
      marks_since (c := c) (d := c) (.of_events rfl) rfl]
    exact .cutsOff _ rfl
  | @complete d turn fault after scene h hrun =>
    have hinterrupted := (h.within_run hsound hrun).interrupted
    have hblames := (Turn.run_blames script.host turn.left turn.turn
      { store := d.store, world := d.world }).2
    rw [hrun] at hblames
    have hadds := (h.adds_absorb hrun).trans (.finish script
      Event.holdsOfEnds_isUnmarked turn.before hinterrupted (d.absorb script scene)
      fun f hf => Fault.isUnmarked (hblames f (congrArg Progress.done hf)))
    have hentering : c.phase.isEntering = false := by
      cases hphase : c.phase.isEntering with
      | false => rfl
      | true => exact absurd (Phase.eq_entering hphase) h.phase_ne_entering
    -- The mark is the label's: the events of the end of a turn tell nothing about asking.
    have hnotes : c.notes (some after) ((d.absorb script scene).finish script turn.before after fault) =
        [.completed after.location after.inputRequested] := by
      simp [notes, hentering, marks_since_of_adds hadds]
    obtain ⟨head, outputs, talk, news, hfinish, -⟩ :=
      finish_of_completed script turn.before hinterrupted fault (d.absorb script scene)
    rw [hnotes]
    refine .completes _ _ ?_
    rw [hfinish, absorb_eq]
    dsimp only
    rw [h.freeSteps_eq]
  | @ask d turn left after scene h hrun =>
    have hadds := (h.adds_absorb hrun).trans
      (.ask script Event.isUnmarked_status clock ⟨after, left, turn.before⟩ (d.absorb script scene))
    have hfree : ((d.absorb script scene).ask script clock ⟨after, left, turn.before⟩).freeSteps =
        c.freeSteps := by
      obtain ⟨phase, news, hask, -⟩ :=
        ask_eq script clock ⟨after, left, turn.before⟩ (d.absorb script scene)
      rw [hask, absorb_eq]
      exact h.freeSteps_eq
    exact .of_adds (fun hphase => absurd hphase h.phase_ne_entering) hadds hfree
  | @rest d turn duration left after scene h hrun =>
    have hadds := h.adds_absorb hrun
    rw [absorb_eq] at hadds ⊢
    exact .of_adds (fun hphase => absurd hphase h.phase_ne_entering) hadds h.freeSteps_eq

/-! ### Chronicles -/

/-- What is noted of a conversation since its beginning. Of an input that is accepted, of a loop that
has ended and of writes of the host nothing is noted. -/
inductive Chronicle (script : Script σ) : List Mark → Conversation σ → Prop where
  | initial (store : Store) (world : σ) : Chronicle script [] (.ofScript script store world)
  | loop {marks : List Mark} {c c' : Conversation σ} {clock : Nat} {label : Option Turn}
      (h : Chronicle script marks c) (hstep : Advances script clock c label c') :
      Chronicle script (marks ++ c.notes label c') c'
  | start {marks : List Mark} {c c' : Conversation σ} (h : Chronicle script marks c)
      (hstart : c.start = .ok c') : Chronicle script (marks ++ [.started]) c'
  | input {marks : List Mark} {c c' : Conversation σ} (h : Chronicle script marks c) (text : String)
      (hinput : c.input text = .ok c') : Chronicle script marks c'
  | navigate {marks : List Mark} {c c' : Conversation σ} (h : Chronicle script marks c)
      (target : Option Location) (hnavigate : c.navigate script target = .ok c') :
      Chronicle script (marks ++ [.navigated]) c'
  | cancel {marks : List Mark} {c : Conversation σ} (h : Chronicle script marks c) :
      Chronicle script (marks ++ [.paused]) c.cancel
  | markPaused {marks : List Mark} {c : Conversation σ} (h : Chronicle script marks c)
      (hphase : c.phase = .off) : Chronicle script marks c.markPaused
  | exit {marks : List Mark} {c : Conversation σ} (h : Chronicle script marks c) :
      Chronicle script marks (c.emit .exit)
  | write {marks : List Mark} {c c' : Conversation σ} {path : String} {value : Json}
      (h : Chronicle script marks c) (hwrite : c.setVariable path value = some c') :
      Chronicle script marks c'

theorem Chronicle.reachable {marks : List Mark} (h : Chronicle script marks c) :
    Reachable script c := by
  induction h with
  | initial store world => exact .initial store world
  | loop h hstep ih => exact .loop ih hstep
  | start h hstart ih => exact .call ih (.start hstart)
  | input h text hinput ih => exact .call ih (.input text hinput)
  | navigate h target hnavigate ih => exact .call ih (.navigate target hnavigate)
  | cancel h ih => exact .call ih (.cancel _)
  | markPaused h hphase ih => exact .call ih (.markPaused hphase)
  | exit h ih => exact .call ih (.exit _)
  | write h hwrite ih => exact .write ih hwrite

/-- **Every state** has a chronicle. -/
theorem Reachable.exists_chronicle (h : Reachable script c) : ∃ marks, Chronicle script marks c := by
  induction h with
  | initial store world => exact ⟨[], .initial store world⟩
  | loop hc h ih =>
    obtain ⟨marks, hmarks⟩ := ih
    exact ⟨_, .loop hmarks h⟩
  | call hc h ih =>
    obtain ⟨marks, hmarks⟩ := ih
    cases h with
    | start h => exact ⟨_, .start hmarks h⟩
    | input text h => exact ⟨_, .input hmarks text h⟩
    | navigate target h => exact ⟨_, .navigate hmarks target h⟩
    | cancel => exact ⟨_, .cancel hmarks⟩
    | markPaused hphase => exact ⟨_, .markPaused hmarks hphase⟩
    | exit => exact ⟨_, .exit hmarks⟩
  | write hc h ih =>
    obtain ⟨marks, hmarks⟩ := ih
    exact ⟨_, .write hmarks h⟩

/-- What a small step does with the count it does with the row. -/
theorem Counts.length_row {marks notes : List Mark} (h : Counts script c c' notes)
    (hc : c.freeSteps = (Mark.row marks).length) :
    c'.freeSteps = (Mark.row (marks ++ notes)).length := by
  cases h with
  | passes hfree => rw [List.append_nil, hfree, hc]
  | completes location asked hfree =>
    rw [Mark.row_concat, hfree, hc]
    cases asked <;> simp [Mark.resets, Mark.free?]
  | cutsOff location hfree => simp [Mark.row_concat, Mark.resets, Mark.free?, hfree, hc]
  | detours hfree => simp [Mark.row_concat, Mark.resets, hfree]
  | enters hfree => simp [Mark.row_concat, Mark.resets, hfree]
  | falls hhead hstep hfall hfree => simp [Mark.row_concat, Mark.resets, hfree]

/-- **The count is exact**: it is the length of the row. -/
theorem Chronicle.freeSteps_eq {marks : List Mark} (h : Chronicle script marks c) :
    c.freeSteps = (Mark.row marks).length := by
  -- Besides the loop only a navigation touches the count; marks of a start or a pause keep the row.
  induction h with
  | initial store world => rfl
  | loop h hstep ih => exact (hstep.counts h.reachable).length_row ih
  | start h hstart ih =>
    obtain ⟨-, news, rfl, -⟩ := start_eq hstart
    simpa [Mark.row_concat, Mark.resets, Mark.free?] using ih
  | input h text hinput ih =>
    obtain ⟨-, news, rfl, -⟩ := input_eq hinput
    exact ih
  | navigate h target hnavigate ih =>
    obtain ⟨-, head, rfl⟩ := navigate_eq hnavigate
    simp [Mark.row_concat, Mark.resets]
  | @cancel marks c h ih =>
    have hsame : c.cancel.freeSteps = c.freeSteps := by
      rcases c.cancel_eq with hcancel | ⟨-, hcancel⟩ | hcancel <;> rw [hcancel]
    simpa [Mark.row_concat, Mark.resets, Mark.free?, hsame] using ih
  | @markPaused marks c h hphase ih =>
    obtain ⟨news, hstatus, -⟩ := setStatus_eq c .paused
    rw [Conversation.markPaused, hstatus]
    exact ih
  | exit h ih => exact ih
  | write h hwrite ih =>
    obtain ⟨store, rfl⟩ := setVariable_eq hwrite
    exact ih

/-- Only a small step of the loop reports a freefall, and only when the guard stops a step. -/
theorem Moves.freefall (h : Moves script c c') (hc : Reachable script c) {limit : Nat}
    {location : Option Location} (hfault : .fault (.freefall limit location) ∈ c.since c') :
    limit = script.settings.freefallLimit ∧ ∃ l step, location = some l ∧ c.head = some l ∧
      script.document.step? l = some step ∧ c.inFreefall script step := by
  cases h with
  | @loop clock label h =>
    have hfell : Mark.fell limit location ∈ c.notes label c' :=
      List.mem_append_right _ (List.mem_filterMap.2 ⟨_, hfault, rfl⟩)
    have hcounts := h.counts hc
    generalize c.notes label c' = notes at hcounts hfell
    cases hcounts with
    | @falls l step hhead hstep hfall =>
      obtain ⟨rfl, rfl⟩ := Mark.fell.inj (List.mem_singleton.1 hfell)
      exact ⟨rfl, l, step, rfl, hhead, hstep, hfall⟩
    | passes => cases hfell
    | _ => cases List.mem_singleton.1 hfell
  | call h =>
    -- The host learns of no fault by a call.
    have hsince := Moves.since (.call h) hc
    have hquiet : (c.since c').filterMap Event.fault? = [] := by
      have hfaults := h.faults
      rw [faults, faults, hsince, List.filterMap_append] at hfaults
      exact List.append_right_eq_self.1 hfaults
    have hmem : Fault.freefall limit location ∈ (c.since c').filterMap Event.fault? :=
      List.mem_filterMap.2 ⟨_, hfault, rfl⟩
    rw [hquiet] at hmem
    cases hmem
  | write h =>
    obtain ⟨store, rfl⟩ := setVariable_eq h
    have hsince : c.since { c with store } = [] := since_of_events (List.append_nil _).symm
    rw [hsince] at hfault
    cases hfault

/-- **Freefall is never reported by mistake.** In every state, by every chronicle of it, the count is
the length of the row of steps that ran without the user since it last started over. What reports a
freefall reports it with the limit of the settings, of the current step, which cannot wait, after a
row as long as the limit. So while the row follows a run of steps with one at its end that may wait,
a freefall is reported only if the limit is less than the length of the run. -/
theorem freefall_exact (hc : Reachable script c) :
    (∃ marks, Chronicle script marks c) ∧ ∀ marks, Chronicle script marks c →
      c.freeSteps = (Mark.row marks).length ∧
      ∀ c', Moves script c c' → ∀ limit location,
        .fault (.freefall limit location) ∈ c.since c' →
        limit = script.settings.freefallLimit ∧ ∃ l step, location = some l ∧ c.head = some l ∧
          script.document.step? l = some step ∧ step.awaitsInput = false ∧
          limit ≤ (Mark.row marks).length ∧
          ∀ run last, script.mayAsk last → Mark.row marks ++ [l] <+: run ++ [last] →
            limit < run.length := by
  refine ⟨hc.exists_chronicle, fun marks hmarks => ?_⟩
  have hcount := hmarks.freeSteps_eq
  refine ⟨hcount, fun c' hmove limit location hfault => ?_⟩
  obtain ⟨rfl, l, step, hlocation, hhead, hstep, hfall⟩ := hmove.freefall hc hfault
  obtain ⟨hlong, hnot⟩ : script.settings.freefallLimit ≤ c.freeSteps ∧ step.awaitsInput = false := by
    simpa [inFreefall] using hfall
  rw [hcount] at hlong
  refine ⟨rfl, l, step, hlocation, hhead, hstep, hnot, hlong, fun run last hlast hprefix => ?_⟩
  have hlength := hprefix.length_le
  rw [List.length_append, List.length_append, List.length_singleton, List.length_singleton] at hlength
  refine Nat.lt_of_le_of_lt hlong (Nat.lt_of_le_of_ne (Nat.le_of_succ_le_succ hlength) fun hsame => ?_)
  -- A row as long as the run would end with the step that may wait.
  have hwhole := hprefix.eq_of_length (by simp [hsame])
  obtain rfl : l = last := List.singleton_inj.1 (List.append_inj hwhole hsame).2
  rw [Script.mayAsk, hstep] at hlast
  exact absurd hlast (by simp [hnot])

/-- What is noted while two remarks are made. -/
def remarkMarks : List Mark :=
  [.started] ++
    (walking 0 (remarkEvents 0)).notes (some (remarked 0)) (walking 1 (remarkEvents 1)) ++
    (walking 1 (remarkEvents 1)).notes (some (remarked 1)) (walking 2 (remarkEvents 2))

theorem chronicle_walking : Chronicle corridor remarkMarks (walking 2 (remarkEvents 2)) :=
  ((Chronicle.start (.initial .empty ()) rfl).loop (advances_walking Nat.zero_lt_two _)).loop
    (advances_walking Nat.one_lt_two _)

/-- The guard holds the third remark back, after a row of two. The three remarks and the question
behind them are a run with one step at its end that may wait, and the limit is less than three. -/
theorem freefall_exact_fallen :
    Chronicle corridor remarkMarks (walking 2 (remarkEvents 2)) ∧
      Mark.row remarkMarks = [⟨"/start", 0⟩, ⟨"/start", 1⟩] ∧
      (walking 2 (remarkEvents 2)).freeSteps = (Mark.row remarkMarks).length ∧
      Moves corridor (walking 2 (remarkEvents 2)) heldBack ∧
      .fault (.freefall 2 (some ⟨"/start", 2⟩)) ∈ (walking 2 (remarkEvents 2)).since heldBack ∧
      (∃ step, corridor.document.step? ⟨"/start", 2⟩ = some step ∧ step.awaitsInput = false) ∧
      let run : List Location := [⟨"/start", 0⟩, ⟨"/start", 1⟩, ⟨"/start", 2⟩]
      corridor.mayAsk ⟨"/start", 3⟩ ∧
        Mark.row remarkMarks ++ [⟨"/start", 2⟩] <+: run ++ [⟨"/start", 3⟩] ∧
        corridor.settings.freefallLimit < run.length := by
  have hrow : Mark.row remarkMarks = [⟨"/start", 0⟩, ⟨"/start", 1⟩] := rfl
  have hmove : Moves corridor (walking 2 (remarkEvents 2)) heldBack := .loop advances_heldBack
  have hsince : (walking 2 (remarkEvents 2)).since heldBack =
      [.fault (.freefall 2 (some ⟨"/start", 2⟩))] := rfl
  have hfault : .fault (.freefall 2 (some ⟨"/start", 2⟩)) ∈
      (walking 2 (remarkEvents 2)).since heldBack := by
    rw [hsince]
    exact List.mem_singleton_self _
  have hprefix : Mark.row remarkMarks ++ [⟨"/start", 2⟩] <+:
      [⟨"/start", 0⟩, ⟨"/start", 1⟩, ⟨"/start", 2⟩] ++ [⟨"/start", 3⟩] := by
    rw [hrow]
    exact List.prefix_append _ _
  obtain ⟨hcount, hnever⟩ := (freefall_exact chronicle_walking.reachable).2 _ chronicle_walking
  obtain ⟨hlimit, l, step, hl, -, hstep, hnot, -, hrun⟩ := hnever heldBack hmove 2 _ hfault
  obtain rfl := Option.some.inj hl
  -- The row and the remark that is held back begin the run, so the limit is less than its length.
  exact ⟨chronicle_walking, hrow, hcount, hmove, hfault, ⟨step, hstep, hnot⟩, rfl, hprefix,
    hlimit ▸ hrun _ _ rfl hprefix⟩

end Conversation

end Dialogue
