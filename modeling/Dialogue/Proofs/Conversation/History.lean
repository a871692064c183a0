import Dialogue.Proofs.Conversation.Basic
import Dialogue.Proofs.Except
import Dialogue.Proofs.History.Patch
/-!
# The history that events tell

A row of events tells a history: one entry for every event that ends a turn. The first entries are
those of the events up to some turn's end, their lines are the lines of these events, in order, and
their changes are the changes of these events.

## Main definitions

- `Event.turnsTold`, `Event.upTo` — how many turns events tell of, and the events up to a turn's end
- `Event.transcript`, `Event.changesTold` — the lines and the changes that events tell of

## Main statements

- `Event.changesTold_upTo` — the last end of a turn tells of the last changes
- `HistoryEntry.take_ofEvents` — the first entries
- `HistoryEntry.lines_take_ofEvents`, `HistoryEntry.patches_ofEventsFrom` — what they hold
- `HistoryState.replay_of_patch`, `HistoryState.patch_of_replay` — replaying takes lines and changes
  together
-/

namespace Dialogue

namespace Event

/-- The changes that an event tells of. -/
def patches : Event → List Patch
  | .step _ _ _ patches => patches.getD []
  | .interrupted _ _ _ patches => patches.getD []
  | _ => []

/-- Where the conversation goes after the turn that the event ends. -/
def next : Event → Option Location
  | .step _ _ next _ => next
  | .interrupted _ _ next _ => next
  | _ => none

/-- How many turns have ended. -/
def turnsTold (events : List Event) : Nat := events.countP endsTurn

/-- The lines of some events. -/
def transcript (events : List Event) : List Line := events.filterMap line?

/-- The changes that some events tell of, in order. -/
def changesTold (events : List Event) : List Patch := events.flatMap patches

/-- The events up to the end of some turn, that one included. -/
def upTo : Nat → List Event → List Event
  | 0, _ => []
  | _, [] => []
  | n + 1, event :: rest => event :: upTo (if event.endsTurn then n else n + 1) rest

@[simp] theorem turnsTold_append (xs ys : List Event) :
    turnsTold (xs ++ ys) = turnsTold xs + turnsTold ys :=
  List.countP_append

@[simp] theorem changesTold_append (xs ys : List Event) :
    changesTold (xs ++ ys) = changesTold xs ++ changesTold ys :=
  List.flatMap_append

theorem turnsTold_cons (event : Event) (rest : List Event) :
    turnsTold (event :: rest) = turnsTold rest + if event.endsTurn then 1 else 0 :=
  List.countP_cons

theorem changesTold_cons (event : Event) (rest : List Event) :
    changesTold (event :: rest) = event.patches ++ changesTold rest :=
  List.flatMap_cons

theorem transcript_cons (event : Event) (rest : List Event) :
    transcript (event :: rest) = event.line?.toList ++ transcript rest := by
  rw [transcript, List.filterMap_cons]
  cases event.line? <;> rfl

theorem line?_of_endsTurn {event : Event} (h : event.endsTurn) : event.line? = none := by
  cases event <;> first | rfl | cases h

theorem turnsTold_of_quiet {news : List Event} (h : ∀ e ∈ news, e.endsTurn = false) :
    turnsTold news = 0 := by
  rw [turnsTold, List.countP_eq_zero]
  intro e he
  simp [h e he]

theorem patches_of_quiet {event : Event} (h : event.endsTurn = false) : event.patches = [] := by
  cases event with
  | step => cases h
  | interrupted => cases h
  | _ => rfl

theorem changesTold_of_quiet {news : List Event} (h : ∀ e ∈ news, e.endsTurn = false) :
    changesTold news = [] := by
  rw [changesTold, List.flatMap_eq_nil_iff]
  intro e he
  exact patches_of_quiet (h e he)

/-! ### Up to the end of a turn -/

@[simp] theorem upTo_zero (events : List Event) : upTo 0 events = [] := by
  rw [upTo]

/-- What comes after the end of a turn does not matter. -/
theorem upTo_append_of_le {n : Nat} {xs : List Event} (h : n ≤ turnsTold xs) (ys : List Event) :
    upTo n (xs ++ ys) = upTo n xs := by
  induction xs generalizing n with
  | nil =>
    obtain rfl : n = 0 := Nat.le_zero.1 h
    rw [upTo_zero, upTo_zero]
  | cons event rest ih =>
    cases n with
    | zero => rw [upTo_zero, upTo_zero]
    | succ n =>
      rw [List.cons_append, upTo, upTo]
      refine congrArg (event :: ·) (ih ?_)
      rw [turnsTold_cons] at h
      split
      · next hend =>
        rw [if_pos hend] at h
        exact Nat.le_of_succ_le_succ h
      · next hquiet =>
        rw [if_neg hquiet] at h
        exact h

/-- Behind the end of the last turn no changes are told. -/
theorem changesTold_upTo (events : List Event) :
    changesTold (upTo (turnsTold events) events) = changesTold events := by
  induction events with
  | nil => rfl
  | cons event rest ih =>
    rw [turnsTold_cons, changesTold_cons, ← ih]
    cases hend : event.endsTurn with
    | true => rw [if_pos rfl, upTo, if_pos hend, changesTold_cons]
    | false =>
      rw [if_neg Bool.false_ne_true, Nat.add_zero, patches_of_quiet hend, List.nil_append]
      -- With no turn left there is nothing to tell; else the event comes before the next turn's.
      cases turnsTold rest with
      | zero => rw [upTo_zero, upTo_zero]
      | succ n =>
        rw [upTo, if_neg (by simp [hend]), changesTold_cons, patches_of_quiet hend,
          List.nil_append]

end Event

namespace HistoryEntry

/-- An event that ends a turn makes an entry of the lines before it; any other may add a line. -/
theorem ofEventsFrom_cons (lines : List Line) (event : Event) (rest : List Event) :
    ofEventsFrom lines (event :: rest) =
      if event.endsTurn then ⟨lines, event.patches, event.next⟩ :: ofEventsFrom [] rest
      else ofEventsFrom (lines ++ event.line?.toList) rest := by
  cases event <;> simp [ofEventsFrom, Event.endsTurn, Event.line?, Event.patches, Event.next]

/-- The first entries are those of the events up to the end of a turn. -/
theorem take_ofEventsFrom (lines : List Line) (events : List Event) (n : Nat) :
    (ofEventsFrom lines events).take n = ofEventsFrom lines (Event.upTo n events) := by
  induction events generalizing lines n with
  | nil => cases n <;> simp [ofEventsFrom, Event.upTo]
  | cons event rest ih =>
    cases n with
    | zero => rw [List.take_zero, Event.upTo_zero, ofEventsFrom]
    | succ n =>
      rw [Event.upTo, ofEventsFrom_cons, ofEventsFrom_cons]
      split
      · rw [List.take_succ_cons, ih]
      · exact ih _ _

/-- **The first entries of a history.** -/
theorem take_ofEvents (events : List Event) (n : Nat) :
    (ofEvents events).take n = ofEvents (Event.upTo n events) :=
  take_ofEventsFrom [] events n

/-- The entries hold the changes that the events tell of. -/
theorem patches_ofEventsFrom (lines : List Line) (events : List Event) :
    (ofEventsFrom lines events).flatMap (·.patches) = Event.changesTold events := by
  induction events generalizing lines with
  | nil => rfl
  | cons event rest ih =>
    rw [ofEventsFrom_cons, Event.changesTold, List.flatMap_cons]
    split
    · rw [List.flatMap_cons, ih, Event.changesTold]
    · next hquiet =>
      rw [Event.patches_of_quiet (by simpa using hquiet), ih, Event.changesTold, List.nil_append]

/-- The entries up to the end of a turn hold the lines up to there, those given in advance
included. -/
theorem lines_ofEventsFrom_upTo {n : Nat} {events : List Event}
    (h : n + 1 ≤ Event.turnsTold events) (lines : List Line) :
    (ofEventsFrom lines (Event.upTo (n + 1) events)).flatMap (·.lines) =
      lines ++ Event.transcript (Event.upTo (n + 1) events) := by
  induction events generalizing lines n with
  | nil => cases h
  | cons event rest ih =>
    rw [Event.turnsTold_cons] at h
    rw [Event.upTo, ofEventsFrom_cons, Event.transcript_cons]
    split
    · next hend =>
      rw [List.flatMap_cons, Event.line?_of_endsTurn hend, Option.toList_none, List.nil_append]
      -- Past the last of the turns nothing is left; before it, no line is pending.
      cases n with
      | zero => rw [Event.upTo_zero]; rfl
      | succ n =>
        rw [if_pos hend] at h
        rw [ih (Nat.le_of_succ_le_succ h), List.nil_append]
    · next hquiet =>
      rw [if_neg hquiet] at h
      rw [ih h, List.append_assoc]

/-- **No line is lost and none is told twice.** The lines of the first entries are those of the
events up to the end of the last of their turns. -/
theorem lines_take_ofEvents {n : Nat} {events : List Event} (h : n ≤ Event.turnsTold events) :
    ((ofEvents events).take n).flatMap (·.lines) = Event.transcript (Event.upTo n events) := by
  rw [take_ofEvents, ofEvents]
  cases n with
  | zero => rw [Event.upTo_zero]; rfl
  | succ n => rw [lines_ofEventsFrom_upTo h, List.nil_append]

end HistoryEntry

namespace HistoryState

/-- Where the changes of some entries fit, so does each entry in turn. -/
theorem foldlM_advance {state : HistoryState} {entries : List HistoryEntry} {own : Json}
    (h : state.own.patch (entries.flatMap (·.patches)) = .ok own) :
    ∃ location, entries.foldlM advance state =
      .ok ⟨state.lines ++ entries.flatMap (·.lines), own, location⟩ := by
  induction entries generalizing state with
  | nil =>
    obtain rfl := Except.ok.inj h
    exact ⟨state.location, by simp [pure, Except.pure]⟩
  | cons entry rest ih =>
    rw [List.flatMap_cons, Json.patch_append] at h
    cases hentry : state.own.patch entry.patches with
    | error fault =>
      rw [hentry] at h
      cases h
    | ok between =>
      rw [hentry] at h
      obtain ⟨location, hrest⟩ := @ih ⟨state.lines ++ entry.lines, between, entry.location⟩ h
      refine ⟨location, ?_⟩
      rw [List.foldlM_cons, advance, hentry]
      refine hrest.trans ?_
      rw [List.flatMap_cons, List.append_assoc]

/-- **Replaying entries** joins their lines and carries out their changes. -/
theorem replay_of_patch {start own : Json} {entries : List HistoryEntry}
    (h : start.patch (entries.flatMap (·.patches)) = .ok own) :
    ∃ location, replay start entries = .ok ⟨entries.flatMap (·.lines), own, location⟩ :=
  @foldlM_advance ⟨[], start, none⟩ entries own h

theorem patch_of_foldlM_advance {state result : HistoryState} {entries : List HistoryEntry}
    (h : entries.foldlM advance state = .ok result) :
    state.own.patch (entries.flatMap (·.patches)) = .ok result.own := by
  induction entries generalizing state with
  | nil =>
    obtain rfl := Except.ok.inj h
    rfl
  | cons entry rest ih =>
    obtain ⟨next, hnext, hrest⟩ := bind_eq_ok_iff.1 h
    obtain ⟨own, hown, hstate⟩ := bind_eq_ok_iff.1 hnext
    obtain rfl := Except.ok.inj hstate
    rw [List.flatMap_cons, Json.patch_append, hown]
    exact ih hrest

/-- Where entries can be replayed, their changes fit. -/
theorem patch_of_replay {start : Json} {result : HistoryState} {entries : List HistoryEntry}
    (h : replay start entries = .ok result) :
    start.patch (entries.flatMap (·.patches)) = .ok result.own :=
  patch_of_foldlM_advance h

end HistoryState

end Dialogue
