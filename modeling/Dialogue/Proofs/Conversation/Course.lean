import Dialogue.Proofs.Conversation.Head
import Dialogue.Proofs.Conversation.Replay
/-!
# The course of a conversation

From some moment on a conversation is moved by its loop, by calls of its host and by writes of its
host. The events since that moment are those that the moves have told, one move after the other. A
move tells of no turn's end, or of one, and then the conversation is where the event says, as far as
there is a step.

## Main definitions

- `Conversation.Moves`, `Conversation.Course` — one move, and a row of moves
- `Script.reached` — where a conversation is once a turn has ended

## Main statements

- `Conversation.Course.told` — what the moves have told
- `Conversation.Moves.tells` — how a move tells of the end of a turn
-/

namespace Dialogue

variable {σ : Type} {script : Script σ}

namespace Script

/-- Where a conversation is once the turn has ended that the event tells of. An abandoned turn tells
where the conversation is; a complete one tells where it is meant to go. -/
def reached (script : Script σ) : Event → Option Location
  | .interrupted _ _ next _ => next
  | event => script.arrival event.next

end Script

namespace Conversation

/-- Anything that may happen to a conversation: a small step, a call or a write of the host. -/
inductive Moves (script : Script σ) : Conversation σ → Conversation σ → Prop where
  | loop {c c' : Conversation σ} {clock : Nat} {label : Option Turn}
      (h : Advances script clock c label c') : Moves script c c'
  | call {c c' : Conversation σ} (h : Calls script c c') : Moves script c c'
  | write {c c' : Conversation σ} {path : String} {value : Json}
      (h : c.setVariable path value = some c') : Moves script c c'

/-- A row of moves from an earlier conversation, each with what it starts from and leads to. -/
inductive Course (script : Script σ) (c₀ : Conversation σ) :
    List (Conversation σ × Conversation σ) → Conversation σ → Prop where
  | refl : Course script c₀ [] c₀
  | move {moves : List (Conversation σ × Conversation σ)} {c c' : Conversation σ}
      (hcourse : Course script c₀ moves c) (h : Moves script c c') :
      Course script c₀ (moves ++ [(c, c')]) c'

theorem Moves.reachable {c c' : Conversation σ} (h : Moves script c c') (hc : Reachable script c) :
    Reachable script c' := by
  cases h with
  | loop h => exact .loop hc h
  | call h => exact .call hc h
  | write h => exact .write hc h

theorem Course.reachable {c₀ c : Conversation σ} {moves : List (Conversation σ × Conversation σ)}
    (h : Course script c₀ moves c) (hc : Reachable script c₀) : Reachable script c := by
  induction h with
  | refl => exact hc
  | move _ h ih => exact h.reachable ih

/-- Each move of a course is one, from a state that comes about. -/
theorem Course.moves {c₀ c : Conversation σ} {moves : List (Conversation σ × Conversation σ)}
    (h : Course script c₀ moves c) (hc : Reachable script c₀) :
    ∀ m ∈ moves, Moves script m.1 m.2 ∧ Reachable script m.1 := by
  induction h with
  | refl => exact fun m hm => by cases hm
  | move hcourse h ih =>
    intro m hm
    rcases List.mem_append.1 hm with hm | hm
    · exact ih m hm
    · obtain rfl := List.mem_singleton.1 hm
      exact ⟨h, hcourse.reachable hc⟩

/-- What the loop does at one instant is a course. -/
theorem Course.settleFrom {c₀ c : Conversation σ} {moves : List (Conversation σ × Conversation σ)}
    (h : Course script c₀ moves c) (clock fuel : Nat) :
    ∃ moves', Course script c₀ moves' (c.settleFrom script clock fuel) := by
  induction fuel generalizing c moves with
  | zero => exact ⟨moves, h⟩
  | succ fuel ih =>
    rw [Conversation.settleFrom]
    cases hadvance : c.advance? script clock with
    | none => exact ⟨moves, h⟩
    | some c' =>
      obtain ⟨label, hstep⟩ := advances_of_advance? hadvance
      exact ih (h.move (.loop hstep))

/-- A move that tells of no turn's end. -/
def Quiet (c c' : Conversation σ) : Prop :=
  ∃ news : Array Event, c'.events = c.events ++ news ∧ ∀ e ∈ news, e.endsTurn = false

/-- A move that tells of one turn's end, after which the conversation is where this leads. -/
def EndsAt (script : Script σ) (c c' : Conversation σ) : Prop :=
  ∃ talk news : Array Event, ∃ event : Event,
    c'.events = c.events ++ talk ++ #[event] ++ news ∧ event.endsTurn ∧
      (∀ e ∈ talk, e.endsTurn = false) ∧ (∀ e ∈ news, e.endsTurn = false) ∧
      c'.head = script.reached event

/-- **One small step** tells of no turn's end or of one. -/
theorem Advances.tells {clock : Nat} {c c' : Conversation σ} {label : Option Turn}
    (h : Advances script clock c label c') (hsound : Sound script c) :
    Quiet c c' ∨ EndsAt script c c' := by
  cases h with
  | stop hphase hcancelled =>
    obtain ⟨news, hend, hmute⟩ := endLoop_eq c
    rw [hend]
    exact .inl ⟨news, rfl, Event.quiet_of_mute hmute⟩
  | wait hphase hcancelled hhead =>
    obtain ⟨news, hsuspend, hmute⟩ := suspend_eq c .waitingInput
    rw [hsuspend]
    exact .inl ⟨news, rfl, Event.quiet_of_mute hmute⟩
  | lost hphase hcancelled hhead hstep =>
    exact .inl ⟨_, Array.push_eq_append, by simp [Event.endsTurn]⟩
  | freefall hphase hcancelled hhead hstep hfall =>
    exact .inl ⟨_, Array.push_eq_append, by simp [Event.endsTurn]⟩
  | @enter text rest hphase hqueue =>
    obtain ⟨head, location, freeSteps, inputs, news, henter, hquiet⟩ :=
      enter_received_eq script text { c with queue := rest }
    rw [henter]
    exact .inl ⟨news, rfl, hquiet⟩
  | @idle turn deadline hphase hdeadline =>
    have hinterrupted := (hsound.within turn (Phase.suspended?_of_asking hphase)).interrupted
    obtain ⟨head, location, status, freeSteps, news, hidle, -, hmute⟩ | ⟨event, hidle, hmute⟩ :=
      goIdle_eq script hinterrupted c
    · rw [hidle]
      exact .inr ⟨news, #[], _, by rw [Array.append_empty], rfl, Event.quiet_of_mute hmute,
        by simp, rfl⟩
    · rw [hidle]
      refine .inl ⟨#[event], rfl, fun e he => ?_⟩
      rw [Array.mem_singleton.1 he]
      exact Event.endsTurn_of_isMute hmute
  | @abandon turn hphase hcancelled =>
    obtain ⟨head, location, store, freeSteps, news, habandon, -, -, hmute⟩ :=
      abandon_eq script (hsound.within turn hphase).interrupted .aborted c
    rw [habandon]
    exact .inr ⟨news, #[], _, by rw [Array.append_empty], rfl, Event.quiet_of_mute hmute,
      by simp, rfl⟩
  | @complete d turn fault after scene h hrun =>
    have hinterrupted : after.interrupted = none := (h.within_run hsound hrun).interrupted
    have harrival : ((d.absorb script scene).finish script turn.before after fault).head =
        script.arrival (after.destination fault.isSome) :=
      (finish_arrival hinterrupted turn.before fault _).1
    obtain ⟨status, queue, inputs, told, rfl, -, htold⟩ := h.eq
    rw [absorb_eq] at harrival ⊢
    obtain ⟨head, outputs, talk, news, hfinish, htalk, hnews⟩ :=
      finish_of_completed script turn.before hinterrupted fault _
    rw [hfinish] at harrival ⊢
    refine .inr ⟨told ++ scene.notices.map Notice.event ++ talk, news,
      .step after.location after.step (after.destination fault.isSome)
        (turn.before.map (·.diff scene.store.own)), ?_, rfl, ?_, Event.quiet_of_mute hnews, harrival⟩
    · simp only [changes, Array.append_assoc]
    · exact Event.quiet_append (Event.quiet_append htold (Notice.quiet_events _)) htalk
  | @ask d turn left after scene h hrun =>
    obtain ⟨status, queue, inputs, told, rfl, -, htold⟩ := h.eq
    rw [absorb_eq]
    obtain ⟨phase, news, hask, -, hmute⟩ := ask_eq script clock ⟨after, left, turn.before⟩ _
    rw [hask]
    refine .inl ⟨told ++ scene.notices.map Notice.event ++ news, ?_, ?_⟩
    · simp only [Array.append_assoc]
    · exact Event.quiet_append (Event.quiet_append htold (Notice.quiet_events _))
        (Event.quiet_of_mute hmute)
  | @rest d turn duration left after scene h hrun =>
    obtain ⟨status, queue, inputs, told, rfl, -, htold⟩ := h.eq
    rw [absorb_eq]
    refine .inl ⟨told ++ scene.notices.map Notice.event, ?_, ?_⟩
    · simp only [Array.append_assoc]
    · exact Event.quiet_append htold (Notice.quiet_events _)

/-- **One move** tells of no turn's end or of one. -/
theorem Moves.tells {c c' : Conversation σ} (h : Moves script c c') (hc : Reachable script c) :
    Quiet c c' ∨ EndsAt script c c' := by
  cases h with
  | loop h => exact h.tells hc.sound
  | call h =>
    obtain ⟨-, -, news, hevents, hmute⟩ := h.keeps hc.sound
    exact .inl ⟨news, hevents, Event.quiet_of_mute hmute⟩
  | write h =>
    obtain ⟨store, rfl⟩ := setVariable_eq h
    exact .inl ⟨#[], Array.append_empty.symm, by simp⟩

/-- A move adds events. -/
theorem Moves.since {c c' : Conversation σ} (h : Moves script c c') (hc : Reachable script c) :
    c'.events.toList = c.events.toList ++ c.since c' := by
  obtain ⟨news, hevents⟩ : ∃ news : List Event, c'.events.toList = c.events.toList ++ news := by
    rcases h.tells hc with ⟨news, hevents, -⟩ | ⟨talk, news, event, hevents, -⟩
    · exact ⟨news.toList, by rw [hevents, Array.toList_append]⟩
    · exact ⟨talk.toList ++ event :: news.toList, by simp [hevents]⟩
  rw [since_of_events hevents, hevents]

/-- **What a course has told** is what its moves have told, one after the other. -/
theorem Course.told {c₀ c : Conversation σ} {moves : List (Conversation σ × Conversation σ)}
    (h : Course script c₀ moves c) (hc : Reachable script c₀) :
    c₀.since c = moves.flatMap fun m => m.1.since m.2 := by
  -- Stated of all events, the claim follows from one move to the next.
  suffices hevents : c.events.toList = c₀.events.toList ++ moves.flatMap fun m => m.1.since m.2 from
    since_of_events hevents
  induction h with
  | refl => simp
  | move hcourse h ih =>
    rw [h.since (hcourse.reachable hc), ih, List.flatMap_append, List.append_assoc]
    simp

end Conversation

end Dialogue
