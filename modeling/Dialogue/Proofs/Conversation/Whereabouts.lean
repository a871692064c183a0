import Dialogue.Proofs.Conversation.Course
/-!
# The location that a history tells

The entry of a turn tells where the turn is meant to lead, and the conversation may end up elsewhere:
nowhere if the target is no step, and at the entry page if the turn leads off the page while no
trigger is waited for. The entry of an abandoned turn tells where the conversation is.

## Main definitions

- `Event.turnEnds`, `Conversation.ends` — the ends of turns, and the conversations right after them
- `Script.Reaches` — the conversation ends up where the event tells
- `Conversation.Replayable` — the history of a conversation can be replayed

## Main statements

- `Conversation.Course.heads` — where the conversation is after each turn
- `Conversation.stateAt_location` — the location of a replayed state
-/

namespace Dialogue

variable {σ : Type} {script : Script σ}

namespace Event

/-- The events that end turns. -/
def turnEnds (events : List Event) : List Event := events.filter endsTurn

theorem length_turnEnds (events : List Event) : (turnEnds events).length = turnsTold events :=
  List.countP_eq_length_filter.symm

theorem turnEnds_of_quiet {news : List Event} (h : ∀ e ∈ news, e.endsTurn = false) :
    turnEnds news = [] := by
  rw [turnEnds, List.filter_eq_nil_iff]
  intro e he
  simp [h e he]

end Event

namespace HistoryEntry

/-- The entries tell the locations that the ends of the turns tell. -/
theorem locations_ofEventsFrom (lines : List Line) (events : List Event) :
    (ofEventsFrom lines events).map (·.location) = (Event.turnEnds events).map Event.next := by
  induction events generalizing lines with
  | nil => rfl
  | cons event rest ih =>
    rw [ofEventsFrom_cons, Event.turnEnds, List.filter_cons]
    split
    · rw [List.map_cons, List.map_cons, ih, Event.turnEnds]
    · rw [ih, Event.turnEnds]

end HistoryEntry

namespace HistoryState

/-- A replayed state has the location of its last entry. -/
theorem location_of_replay {start : Json} {entries : List HistoryEntry} {entry : HistoryEntry}
    {state : HistoryState} (h : replay start (entries ++ [entry]) = .ok state) :
    state.location = entry.location := by
  rw [replay, List.foldlM_append] at h
  cases hbefore : entries.foldlM advance ⟨[], start, none⟩ with
  | error fault =>
    rw [hbefore] at h
    cases h
  | ok between =>
    rw [hbefore] at h
    have hlast : [entry].foldlM advance between = .ok state := h
    rw [List.foldlM_cons, advance] at hlast
    cases hpatch : between.own.patch entry.patches with
    | error fault =>
      rw [hpatch] at hlast
      cases hlast
    | ok own =>
      rw [hpatch] at hlast
      obtain rfl := Except.ok.inj hlast
      rfl

end HistoryState

namespace Script

/-- The conversation ends up where the event tells: at a step, or nowhere since a trigger is waited
for or the entry page has no step. -/
def Reaches (script : Script σ) : Event → Prop
  | .step _ _ (some target) _ => (script.document.step? target).isSome
  | .step _ _ none _ => script.document.hasTriggers ∨ script.document.step? script.entry = none
  | _ => True

theorem reached_eq_next_iff {event : Event} (h : event.endsTurn) :
    event.next = script.reached event ↔ script.Reaches event := by
  cases event with
  | step location step next patches =>
    cases next with
    | some target =>
      show some target = script.landing target ↔ (script.document.step? target).isSome
      unfold landing
      split
      · next hstep => simp [hstep]
      · next hstep => simp [hstep]
    | none =>
      show none = script.arrival none ↔
        script.document.hasTriggers ∨ script.document.step? script.entry = none
      unfold arrival landing
      by_cases htriggers : script.document.hasTriggers
      · simp [htriggers]
      · cases hentry : script.document.step? script.entry <;> simp [htriggers]
  | interrupted => exact iff_of_true rfl trivial
  | _ => cases h

end Script

namespace Conversation

/-- The conversations in which a turn has just ended. -/
def ends (moves : List (Conversation σ × Conversation σ)) : List (Conversation σ) :=
  moves.flatMap fun m => m.1.ended m.2

/-- The conversation is where the end of the turn leads. -/
def IsAt (script : Script σ) (moment : Conversation σ) (event : Event) : Prop :=
  moment.head = script.reached event

/-- What a move tells of the ends of turns, and where the conversation is then. -/
theorem Moves.heads {c c' : Conversation σ} (h : Moves script c c') (hc : Reachable script c) :
    List.Forall₂ (IsAt script) (c.ended c') (Event.turnEnds (c.since c')) := by
  rcases h.tells hc with ⟨news, hevents, hquiet⟩ | ⟨talk, news, event, hevents, hend, htalk, hnews, hhead⟩
  · have hsince : c.since c' = news.toList :=
      since_of_events (by rw [hevents, Array.toList_append])
    have hquiet' : ∀ e ∈ news.toList, e.endsTurn = false := by simpa using hquiet
    rw [Conversation.ended, hsince, if_pos (Event.turnsTold_of_quiet hquiet'),
      Event.turnEnds_of_quiet hquiet']
    exact .nil
  · have hsince : c.since c' = talk.toList ++ event :: news.toList :=
      since_of_events (by simp [hevents])
    have hends : Event.turnEnds (c.since c') = [event] := by
      have htalk' : Event.turnEnds talk.toList = [] := Event.turnEnds_of_quiet (by simpa using htalk)
      have hnews' : Event.turnEnds news.toList = [] := Event.turnEnds_of_quiet (by simpa using hnews)
      rw [Event.turnEnds] at htalk' hnews'
      rw [hsince, Event.turnEnds, List.filter_append, List.filter_cons, if_pos hend, htalk', hnews',
        List.nil_append]
    have htold : Event.turnsTold (c.since c') ≠ 0 := by
      rw [← Event.length_turnEnds, hends]
      exact Nat.one_ne_zero
    rw [Conversation.ended, if_neg htold, hends]
    exact .cons hhead .nil

/-- **After each turn the conversation is where its end leads.** -/
theorem Course.heads {c₀ c : Conversation σ} {moves : List (Conversation σ × Conversation σ)}
    (h : Course script c₀ moves c) (hc : Reachable script c₀) :
    List.Forall₂ (IsAt script) (ends moves) (Event.turnEnds (c₀.since c)) := by
  have hmoves := h.moves hc
  rw [h.told hc]
  clear h
  induction moves with
  | nil => exact .nil
  | cons m rest ih =>
    obtain ⟨⟨hm, hreach⟩, hrest⟩ := List.forall_mem_cons.1 hmoves
    rw [ends, List.flatMap_cons, List.flatMap_cons, Event.turnEnds, List.filter_append]
    exact List.rel_append (hm.heads hreach) (ih hrest)

/-- The recorder is attached to a paused conversation, and the history since then can be replayed:
patches are recorded, the host writes no variable and no write is lost. -/
structure Replayable (script : Script σ) (c₀ c : Conversation σ) : Prop where
  record : script.settings.recordPatches
  tidy : script.Tidy
  paused : c₀.status = .paused
  store : c₀.store.Tidy
  own : c₀.store.own ≠ .null
  run : ∃ ends, Run script c₀ ends c

theorem entries_attach (c₀ c : Conversation σ) :
    (Recorder.attach c₀).entries c = HistoryEntry.ofEvents (c₀.since c) := rfl

/-- A history that can be replayed gives a state after each of its turns. -/
theorem Replayable.exists_stateAt {c₀ c : Conversation σ} (h : Replayable script c₀ c)
    (hc : Reachable script c₀) {n : Nat} (hn : n ≤ Event.turnsTold (c₀.since c)) :
    ∃ state, (Recorder.attach c₀).stateAt c n = .ok state := by
  obtain ⟨ends, hrun⟩ := h.run
  obtain ⟨told, htold⟩ := hrun.recounts hc (hc.sound.off h.paused) h.record h.tidy h.store
  have hsince : c₀.since c = told := since_of_events htold.events
  have hstart : (Recorder.attach c₀).start = c₀.store.own := by
    rw [Recorder.attach]
    cases hjson : c₀.store.own with
    | null => exact absurd hjson h.own
    | _ => rfl
  have hlength : n < (c₀ :: ends).length := by
    rw [List.length_cons, htold.length, ← hsince]
    omega
  obtain ⟨own, hpatch, -⟩ := (htold.moments n _ (List.getElem?_eq_getElem hlength)).leads
  have hfit : c₀.store.own.patch
      (((HistoryEntry.ofEvents told).take n).flatMap (·.patches)) = .ok own := by
    rw [HistoryEntry.take_ofEvents, HistoryEntry.ofEvents, HistoryEntry.patches_ofEventsFrom]
    exact hpatch
  obtain ⟨location, hreplay⟩ := HistoryState.replay_of_patch hfit
  rw [Recorder.stateAt, hstart, entries_attach, hsince]
  exact ⟨_, hreplay⟩

/-- The location of a state is the one that the last of its turns has told. -/
theorem location_of_stateAt {c₀ c : Conversation σ} {n : Nat} {event : Event} {state : HistoryState}
    (hevent : (Event.turnEnds (c₀.since c))[n]? = some event)
    (h : (Recorder.attach c₀).stateAt c (n + 1) = .ok state) : state.location = event.next := by
  have hlocations : (((Recorder.attach c₀).entries c).map (·.location))[n]? = some event.next := by
    rw [entries_attach, HistoryEntry.ofEvents, HistoryEntry.locations_ofEventsFrom,
      List.getElem?_map, hevent]
    rfl
  rw [List.getElem?_map] at hlocations
  obtain ⟨entry, hentry, hlocation⟩ := Option.map_eq_some_iff.1 hlocations
  rw [Recorder.stateAt, List.take_add_one, hentry] at h
  exact (HistoryState.location_of_replay h).trans hlocation

/-- **Where a history says that a conversation is.** After each turn the conversation is where the
end of the turn leads. The state that is replayed up to there tells where the turn was meant to lead:
this is the same exactly when the target is a step, or when the turn leads off the page and the
conversation waits for a trigger or has no entry page. -/
theorem stateAt_location {c₀ c : Conversation σ} {moves : List (Conversation σ × Conversation σ)}
    (hc : Reachable script c₀) (hcourse : Course script c₀ moves c) :
    (ends moves).length = Event.turnsTold (c₀.since c) ∧
    ∀ n moment, (ends moves)[n]? = some moment →
      ∃ event, (Event.turnEnds (c₀.since c))[n]? = some event ∧
        moment.head = script.reached event ∧
        (∀ state, (Recorder.attach c₀).stateAt c (n + 1) = .ok state →
          state.location = event.next ∧ (state.location = moment.head ↔ script.Reaches event)) ∧
        (Replayable script c₀ c → ∃ state, (Recorder.attach c₀).stateAt c (n + 1) = .ok state) := by
  have hheads := hcourse.heads hc
  have hlength : (ends moves).length = Event.turnsTold (c₀.since c) := by
    rw [hheads.length_eq, Event.length_turnEnds]
  refine ⟨hlength, fun n moment hmoment => ?_⟩
  obtain ⟨hlt, hget⟩ := List.getElem?_eq_some_iff.1 hmoment
  have hlt' : n < (Event.turnEnds (c₀.since c)).length := hheads.length_eq ▸ hlt
  have hevent := List.getElem?_eq_getElem hlt'
  have hhead : moment.head = script.reached (Event.turnEnds (c₀.since c))[n] :=
    hget ▸ hheads.get hlt hlt'
  have hend : (Event.turnEnds (c₀.since c))[n].endsTurn :=
    (List.mem_filter.1 (List.getElem_mem hlt')).2
  refine ⟨_, hevent, hhead, fun state hstate => ?_, fun hreplayable => ?_⟩
  · have hlocation := location_of_stateAt hevent hstate
    refine ⟨hlocation, ?_⟩
    rw [hlocation, hhead]
    exact Script.reached_eq_next_iff hend
  · exact hreplayable.exists_stateAt hc (hlength ▸ hlt)

/-! ### A page that is left -/

/-- A document of one step that says a word, with patches recorded. -/
def greeter : Script Unit where
  document := { pages := [("/start", [{ message := some (.whole "Hello") }])] }
  settings := { recordPatches := true }
  host := ⟨[], fun _ world => (.error "offline", world)⟩

/-- The conversation before it is started. -/
def silent : Conversation Unit := .ofScript greeter .empty ()

/-- The conversation once its step has run. -/
def greeted : Conversation Unit :=
  settleFrom greeter 0 1 { silent.setStatus .busy with phase := .ready }

theorem tidy_greeter : greeter.Tidy where
  document := by
    refine Document.tidy_of_pages fun page hpage step hstep => ?_
    obtain rfl : page = ("/start", [{ message := some (.whole "Hello") }]) := by
      simpa [greeter] using hpage
    obtain rfl : step = { message := some (.whole "Hello") } := by simpa using hstep
    exact Step.HoldsTidy.tidy ⟨by simp, by simp⟩ rfl
  host name function h := by cases h

theorem replayable_greeted : Replayable greeter silent greeted where
  record := rfl
  tidy := tidy_greeter
  paused := rfl
  store := ⟨Json.tidy_object.2 ⟨.nil, by simp⟩, fun _ h => by cases h⟩
  own h := by cases h
  run := by
    have hstarted : Run greeter silent [] { silent.setStatus .busy with phase := .ready } :=
      .call .refl (.start rfl)
    exact hstarted.settleFrom (.initial .empty ()) rfl 0 1

/-- The page is left and no trigger is waited for: the conversation is at the entry page, and the
history says that it is nowhere. -/
theorem stateAt_location_greeted :
    ∃ moves moment, Course greeter silent moves greeted ∧ (ends moves)[0]? = some moment ∧
      moment.head = some greeter.entry ∧
      ∃ state, (Recorder.attach silent).stateAt greeted 1 = .ok state ∧ state.location = none := by
  have hc : Reachable greeter silent := .initial .empty ()
  have hstarted : Course greeter silent
      [(silent, { silent.setStatus .busy with phase := .ready })]
      { silent.setStatus .busy with phase := .ready } :=
    .move .refl (.call (.start rfl))
  obtain ⟨moves, hcourse⟩ := hstarted.settleFrom 0 1
  obtain ⟨hlength, hmoments⟩ := stateAt_location hc hcourse
  have hone : 0 < (ends moves).length := by
    rw [hlength]
    exact Nat.one_pos
  have hmoment := List.getElem?_eq_getElem hone
  obtain ⟨event, hevent, hhead, hlocation, hreplay⟩ := hmoments 0 _ hmoment
  obtain ⟨state, hstate⟩ := hreplay replayable_greeted
  obtain rfl : event = .step greeter.entry { message := some (.whole "Hello") } none (some []) :=
    Option.some.inj (hevent.symm.trans rfl)
  exact ⟨moves, _, hcourse, hmoment, hhead, state, hstate, (hlocation state hstate).1⟩

end Conversation

end Dialogue
