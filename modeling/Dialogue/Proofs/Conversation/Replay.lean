import Dialogue.Conversation.Recorder
import Dialogue.Proofs.Conversation.Recording
import Dialogue.Proofs.History.Difference
/-!
# Replays are faithful

The changes that a turn's end tells of lead from the variables at the turn's beginning to those at
its end, and between turns the variables stay as they are. So the changes since some moment lead from
the variables of that moment to those of each turn's end.

A loop that breaks down tells nothing of the turn that it was in. What that turn had stored stays,
and no later change tells of it; a replay is faithful as long as no write is lost in this way.

## Main definitions

- `Conversation.Run` — small steps and calls, with the conversations in which a turn has just ended
- `Conversation.Recounts` — what a run has told

## Main statements

- `Conversation.Continues.exists_said`, `Conversation.Ends.exists_said` — what a small step says
- `Conversation.Recounts.continues`, `Conversation.Recounts.ends` — one step of a run
- `Conversation.replay_faithful` — a run
-/

namespace Dialogue

namespace Conversation

variable {σ : Type} {script : Script σ}

/-! ### Runs -/

/-- The events since an earlier conversation. -/
def since (c₀ c : Conversation σ) : List Event := c.events.toList.drop c₀.events.size

/-- The conversation, if a turn has ended in it since an earlier one. -/
def ended (c c' : Conversation σ) : List (Conversation σ) :=
  if Event.turnsTold (c.since c') = 0 then [] else [c']

/-- A run of small steps and calls, with the conversations in which a turn has just ended. The host
writes no variable, and where the loop breaks down the variables are still those from the beginning
of the turn. -/
inductive Run (script : Script σ) (c₀ : Conversation σ) :
    List (Conversation σ) → Conversation σ → Prop where
  | refl : Run script c₀ [] c₀
  | loop {ends : List (Conversation σ)} {c c' : Conversation σ} {clock : Nat} {label : Option Turn}
      (hrun : Run script c₀ ends c) (h : Advances script clock c label c')
      (hkept : c'.phase = .broken → c.base.same c'.store.own) :
      Run script c₀ (ends ++ c.ended c') c'
  | call {ends : List (Conversation σ)} {c c' : Conversation σ} (hrun : Run script c₀ ends c)
      (h : Calls script c c') : Run script c₀ ends c'

theorem Run.reachable {c₀ c : Conversation σ} {ends : List (Conversation σ)}
    (hrun : Run script c₀ ends c) (hc : Reachable script c₀) : Reachable script c := by
  induction hrun with
  | refl => exact hc
  | loop _ h _ ih => exact .loop ih h
  | call _ h ih => exact .call ih h

/-- What the loop does at one instant is a run, when its waits can be counted. -/
theorem Run.settleFrom {c₀ c : Conversation σ} {ends : List (Conversation σ)}
    (hrun : Run script c₀ ends c) (hc : Reachable script c₀)
    (hcountable : script.settings.patience.isCountable) (clock fuel : Nat) :
    ∃ ends', Run script c₀ ends' (c.settleFrom script clock fuel) := by
  induction fuel generalizing c ends with
  | zero => exact ⟨ends, hrun⟩
  | succ fuel ih =>
    rw [Conversation.settleFrom]
    cases hadvance : c.advance? script clock with
    | none => exact ⟨ends, hrun⟩
    | some c' =>
      obtain ⟨label, h⟩ := advances_of_advance? hadvance
      have hunbroken := h.phase_ne_broken (hrun.reachable hc).sound hcountable
      exact ih (hrun.loop h fun hbroken => absurd hbroken hunbroken)

theorem Run.records {c₀ c : Conversation σ} {ends : List (Conversation σ)}
    (hrun : Run script c₀ ends c) (hc : Reachable script c₀)
    (hrecord : script.settings.recordPatches) (hscript : script.Tidy) (hc₀ : Records c₀) :
    Records c := by
  induction hrun with
  | refl => exact hc₀
  | loop hrun h _ ih => exact h.records hrecord hscript (hrun.reachable hc).sound ih
  | call hrun h ih => exact h.records (hrun.reachable hc).sound ih

/-- The changes lead from a value to one that is the same as another. -/
def LeadTo (start : Json) (changes : List Patch) (own : Json) : Prop :=
  ∃ result, start.patch changes = .ok result ∧ result.same own

theorem LeadTo.same {start own own' : Json} {changes : List Patch} (h : LeadTo start changes own)
    (hsame : own.same own') : LeadTo start changes own' := by
  obtain ⟨result, hresult, hown⟩ := h
  exact ⟨result, hresult, Json.same_trans hown hsame⟩

/-- One more difference leads on. -/
theorem LeadTo.diff {start own own' : Json} {changes : List Patch} (h : LeadTo start changes own)
    (hown : own.Tidy) (hown' : own'.Tidy) : LeadTo start (changes ++ own.diff own') own' := by
  obtain ⟨between, hbetween, hsame⟩ := h
  obtain ⟨result, hresult, hsame'⟩ := Json.patch_diff hown hown' between hsame
  refine ⟨result, ?_, hsame'⟩
  rw [Json.patch_append, hbetween]
  exact hresult

theorem since_of_events {c₀ c : Conversation σ} {told : List Event}
    (h : c.events.toList = c₀.events.toList ++ told) : c₀.since c = told := by
  rw [since, h, ← Array.length_toList, List.drop_left]

/-- What is said later comes after what has been said. -/
theorem since_extends {c₀ c c' : Conversation σ} {said : List Event}
    (h : c'.events.toList = c.events.toList ++ said) : c₀.since c <+: c₀.since c' := by
  rw [since, since, h, List.drop_append]
  exact List.prefix_append _ _

/-- What a small step says that ends a turn. -/
theorem Ends.exists_said {c c' : Conversation σ} (h : Ends c c') : ∃ said : List Event,
    c'.events.toList = c.events.toList ++ said ∧ Event.turnsTold said = 1 ∧
      Event.changesTold said = c.base.diff c'.store.own ∧ c.ended c' = [c'] := by
  obtain ⟨talk, news, event, hevents, hend, hpatches, htalk, hnews⟩ := h.events
  have htalk' : ∀ e ∈ talk.toList, e.endsTurn = false := by simpa using htalk
  have hnews' : ∀ e ∈ news.toList, e.endsTurn = false :=
    by simpa using Event.quiet_of_mute hnews
  have hsaid : c'.events.toList = c.events.toList ++ (talk.toList ++ event :: news.toList) := by
    simp [hevents]
  have hturns : Event.turnsTold (talk.toList ++ event :: news.toList) = 1 := by
    rw [Event.turnsTold_append, Event.turnsTold_cons, if_pos hend,
      Event.turnsTold_of_quiet htalk', Event.turnsTold_of_quiet hnews']
  refine ⟨_, hsaid, hturns, ?_, ?_⟩
  · rw [Event.changesTold_append, Event.changesTold_of_quiet htalk', Event.changesTold_cons,
      Event.changesTold_of_quiet hnews', List.append_nil, List.nil_append, hpatches]
  · rw [Conversation.ended, since_of_events hsaid, hturns, if_neg Nat.one_ne_zero]

theorem Continues.exists_said {c c' : Conversation σ} (h : Continues c c') : ∃ said : List Event,
    c'.events.toList = c.events.toList ++ said ∧ Event.turnsTold said = 0 ∧
      Event.changesTold said = [] := by
  obtain ⟨news, hevents, hquiet⟩ := h.events
  have hquiet' : ∀ e ∈ news.toList, e.endsTurn = false := by simpa using hquiet
  exact ⟨news.toList, by rw [hevents, Array.toList_append], Event.turnsTold_of_quiet hquiet',
    Event.changesTold_of_quiet hquiet'⟩

theorem Continues.ended {c c' : Conversation σ} (h : Continues c c') : c.ended c' = [] := by
  obtain ⟨said, hsaid, hturns, -⟩ := h.exists_said
  rw [Conversation.ended, since_of_events hsaid, if_pos hturns]

/-- Where the loop breaks down without having lost a write, the variables are those at the beginning
of the turn. -/
theorem Continues.base_same {c c' : Conversation σ} (h : Continues c c') (hbase : c.base.Tidy)
    (hkept : c'.phase = .broken → c.base.same c'.store.own) : c.base.same c'.base := by
  by_cases hbroken : c'.phase = .broken
  · have hown : c'.base = c'.store.own := base_of_free (by rw [hbroken]; rfl)
    rw [hown]
    exact hkept hbroken
  · rw [h.base hbroken]
    exact Json.same_refl hbase

/-- The moment at which so many turns had ended: what the events told up to then leads to its
variables. -/
structure Moment (c₀ : Conversation σ) (told : List Event) (n : Nat) (moment : Conversation σ) :
    Prop where
  turns : Event.turnsTold (c₀.since moment) = n
  before : c₀.since moment <+: told
  leads : LeadTo c₀.store.own (Event.changesTold (Event.upTo n told)) moment.store.own

/-- More events come after a moment. -/
theorem Moment.append {c₀ moment : Conversation σ} {told : List Event} {n : Nat}
    (h : Moment c₀ told n moment) (more : List Event) : Moment c₀ (told ++ more) n moment where
  turns := h.turns
  before := h.before.trans (List.prefix_append told more)
  leads := by
    have hle : n ≤ Event.turnsTold told := h.turns ▸ h.before.sublist.countP_le
    rw [Event.upTo_append_of_le hle]
    exact h.leads

/-- What a run has told. -/
structure Recounts (c₀ : Conversation σ) (ends : List (Conversation σ)) (c : Conversation σ)
    (told : List Event) : Prop where
  events : c.events.toList = c₀.events.toList ++ told
  length : ends.length = Event.turnsTold told
  moments : ∀ n moment, (c₀ :: ends)[n]? = some moment → Moment c₀ told n moment
  now : LeadTo c₀.store.own (Event.changesTold told) c.base

/-- At first nothing is told. -/
theorem Recounts.refl {c₀ : Conversation σ} (hoff : c₀.phase = .off) (hstore : c₀.store.Tidy) :
    Recounts c₀ [] c₀ [] := by
  have hlead : LeadTo c₀.store.own [] c₀.store.own :=
    ⟨c₀.store.own, rfl, Json.same_refl hstore.own⟩
  have hsince : c₀.since c₀ = [] := since_of_events (List.append_nil _).symm
  refine ⟨(List.append_nil _).symm, rfl, fun n moment h => ?_, ?_⟩
  · cases n with
    | zero =>
      obtain rfl := Option.some.inj h
      exact ⟨by rw [hsince]; rfl, ⟨[], by rw [hsince]; rfl⟩, hlead⟩
    | succ n => cases h
  · rw [base_of_free (by rw [hoff]; rfl)]
    exact hlead

/-- Within a turn, the variables at its beginning are still what has been told. -/
theorem Recounts.continues {c₀ c c' : Conversation σ} {ends : List (Conversation σ)}
    {told : List Event} (hc : Recounts c₀ ends c told) (h : Continues c c')
    (hsame : c.base.same c'.base) : ∃ told', Recounts c₀ ends c' told' := by
  obtain ⟨said, hsaid, hturns, hchanges⟩ := h.exists_said
  refine ⟨told ++ said, ?_, ?_, fun n moment hn => (hc.moments n moment hn).append _, ?_⟩
  · rw [hsaid, hc.events, List.append_assoc]
  · rw [Event.turnsTold_append, hturns, hc.length, Nat.add_zero]
  · rw [Event.changesTold_append, hchanges, List.append_nil]
    exact hc.now.same hsame

/-- The end of a turn is a moment of its own. -/
theorem Recounts.ends {c₀ c c' : Conversation σ} {ends : List (Conversation σ)}
    {told : List Event} (hc : Recounts c₀ ends c told) (h : Ends c c') (hbase : c.base.Tidy)
    (hown : c'.store.own.Tidy) : ∃ told', Recounts c₀ (ends ++ c.ended c') c' told' := by
  obtain ⟨said, hsaid, hturns, hchanges, hended⟩ := h.exists_said
  have hevents : c'.events.toList = c₀.events.toList ++ (told ++ said) := by
    rw [hsaid, hc.events, List.append_assoc]
  have hcount : Event.turnsTold (told ++ said) = ends.length + 1 := by
    rw [Event.turnsTold_append, hturns, hc.length]
  have hlead : LeadTo c₀.store.own (Event.changesTold (told ++ said)) c'.store.own := by
    rw [Event.changesTold_append, hchanges]
    exact hc.now.diff hbase hown
  rw [hended]
  refine ⟨told ++ said, hevents, ?_, fun n moment hn => ?_, ?_⟩
  · rw [hcount, List.length_append, List.length_singleton]
  · rw [← List.cons_append, List.getElem?_append] at hn
    split at hn
    · exact (hc.moments n moment hn).append said
    · next hlong =>
      -- Past the turns so far there is only the one that has just ended.
      obtain ⟨hzero, rfl⟩ : n - (ends.length + 1) = 0 ∧ c' = moment := by
        simpa [List.getElem?_singleton] using hn
      obtain rfl : n = Event.turnsTold (told ++ said) := by
        rw [List.length_cons] at hlong
        rw [hcount]
        omega
      have hsince := since_of_events hevents
      refine ⟨congrArg Event.turnsTold hsince, ⟨[], by rw [hsince, List.append_nil]⟩, ?_⟩
      rw [Event.changesTold_upTo]
      exact hlead
  · rw [base_of_free h.free]
    exact hlead

theorem Run.recounts {c₀ c : Conversation σ} {ends : List (Conversation σ)}
    (hrun : Run script c₀ ends c) (hc : Reachable script c₀) (hoff : c₀.phase = .off)
    (hrecord : script.settings.recordPatches) (hscript : script.Tidy) (hstore : c₀.store.Tidy) :
    ∃ told, Recounts c₀ ends c told := by
  have hc₀ : Records c₀ := .of_free hstore (by rw [hoff]; rfl)
  induction hrun with
  | refl => exact ⟨[], .refl hoff hstore⟩
  | @loop ends c c' clock label hrun h hkept ih =>
    obtain ⟨told, htold⟩ := ih
    have hsound := (hrun.reachable hc).sound
    have hrecords := hrun.records hc hrecord hscript hc₀
    rcases h.continues_or_ends hrecord hscript hsound hrecords with hstep | hstep
    · rw [hstep.ended, List.append_nil]
      exact htold.continues hstep (hstep.base_same hrecords.base hkept)
    · exact htold.ends hstep hrecords.base
        (h.records hrecord hscript hsound hrecords).store.own
  | @call ends c c' hrun h ih =>
    obtain ⟨told, htold⟩ := ih
    obtain ⟨hstep, hbase⟩ := h.continues (hrun.reachable hc).sound
    refine htold.continues hstep ?_
    rw [hbase]
    exact Json.same_refl (hrun.records hc hrecord hscript hc₀).base

/-- **Replays are faithful.** A recorder is attached to a paused conversation. Whatever happens from
then on, as long as the host writes no variable, it has told the end of each of the turns, and the
state after any number of them has the variables of the moment at which the last of these ended and
the lines that were said up to then. -/
theorem replay_faithful {c₀ c : Conversation σ} {ends : List (Conversation σ)}
    (hrecord : script.settings.recordPatches) (hscript : script.Tidy) (hc : Reachable script c₀)
    (hpaused : c₀.status = .paused) (hstore : c₀.store.Tidy) (hown : c₀.store.own ≠ .null)
    (hrun : Run script c₀ ends c) :
    ends.length = Event.turnsTold (c₀.since c) ∧
      ∀ n moment, (c₀ :: ends)[n]? = some moment →
        Event.turnsTold (c₀.since moment) = n ∧ c₀.since moment <+: c₀.since c ∧
        ∃ state, (Recorder.attach c₀).stateAt c n = .ok state ∧
          state.own.same moment.store.own ∧
          state.lines = Event.transcript (Event.upTo n (c₀.since c)) := by
  obtain ⟨told, htold⟩ := hrun.recounts hc (hc.sound.off hpaused) hrecord hscript hstore
  have hsince : c₀.since c = told := since_of_events htold.events
  have hstart : (Recorder.attach c₀).start = c₀.store.own := by
    rw [Recorder.attach]
    cases hjson : c₀.store.own with
    | null => exact absurd hjson hown
    | _ => rfl
  have hentries : (Recorder.attach c₀).entries c = HistoryEntry.ofEvents told := by
    rw [← hsince]
    rfl
  rw [hsince]
  refine ⟨htold.length, fun n moment hn => ?_⟩
  obtain ⟨hturns, hbefore, own, hpatch, hsame⟩ := htold.moments n moment hn
  have hle : n ≤ Event.turnsTold told := hturns ▸ hbefore.sublist.countP_le
  refine ⟨hturns, hbefore, ?_⟩
  rw [Recorder.stateAt, hstart, hentries]
  have hfit : c₀.store.own.patch
      (((HistoryEntry.ofEvents told).take n).flatMap (·.patches)) = .ok own := by
    rw [HistoryEntry.take_ofEvents, HistoryEntry.ofEvents, HistoryEntry.patches_ofEventsFrom]
    exact hpatch
  obtain ⟨location, hreplay⟩ := HistoryState.replay_of_patch hfit
  exact ⟨_, hreplay, hsame, HistoryEntry.lines_take_ofEvents hle⟩

/-! ### A turn that is cut off -/

/-- A step that stores a variable and then waits for an answer. -/
def keepingStep : Step where
  input := some { kind := .set, variablePath := some "seen", value := .bool true }
  links := some [("yes", "/start")]

/-- A document of that step alone, with patches recorded. -/
def keeper : Script Unit where
  document := { pages := [("/start", [keepingStep])] }
  settings := { recordPatches := true }
  host := ⟨[], fun _ world => (.error "offline", world)⟩

/-- The conversation before it is started. -/
def unstarted : Conversation Unit := .ofScript keeper .empty ()

/-- The conversation once it is started and waits for the answer. -/
def waiting : Conversation Unit :=
  settleFrom keeper 0 2 { unstarted.setStatus .busy with phase := .ready }

/-- The conversation once it is told to end meanwhile. -/
def cutOff : Conversation Unit := settleFrom keeper 0 2 waiting.cancel

theorem tidy_keeper : keeper.Tidy where
  document := by
    refine Document.tidy_of_pages fun page hpage step hstep => ?_
    obtain rfl : page = ("/start", [keepingStep]) := by simpa [keeper] using hpage
    obtain rfl : step = keepingStep := by simpa using hstep
    refine Step.HoldsTidy.tidy ⟨?_, by simp [keepingStep]⟩ rfl
    simp [keepingStep, Input.Tidy, Json.Tidy]
  host name function h := by cases h

/-- The turn that is cut off has stored a variable, and its end tells of it. -/
theorem replay_faithful_cutOff :
    ∃ ends, Run keeper unstarted ends cutOff ∧ ends.length = 1 ∧
      ∀ n moment, (unstarted :: ends)[n]? = some moment →
        Event.turnsTold (unstarted.since moment) = n ∧
        unstarted.since moment <+: unstarted.since cutOff ∧
        ∃ state, (Recorder.attach unstarted).stateAt cutOff n = .ok state ∧
          state.own.same moment.store.own ∧
          state.lines = Event.transcript (Event.upTo n (unstarted.since cutOff)) := by
  have hc : Reachable keeper unstarted := .initial .empty ()
  have hempty : unstarted.store.Tidy := ⟨Json.tidy_object.2 ⟨.nil, by simp⟩, fun _ h => by cases h⟩
  have hstarted : Run keeper unstarted [] { unstarted.setStatus .busy with phase := .ready } :=
    .call .refl (.start rfl)
  obtain ⟨before, hwaiting⟩ := hstarted.settleFrom hc rfl 0 2
  obtain ⟨ends, hrun⟩ := (hwaiting.call (.cancel waiting)).settleFrom hc rfl 0 2
  obtain ⟨hlength, hmoments⟩ :=
    replay_faithful rfl tidy_keeper hc rfl hempty (by cases ·) hrun
  exact ⟨ends, hrun, hlength.trans rfl, hmoments⟩

/-- What is stored in a turn is lost to the history when the wait for its answer is too long to
count: no end of the turn tells of it. -/
example :
    let script : Script Unit := { keeper with
      document := { pages := [("/start", [keepingStep]), ("/end", [{}])] }
      settings := { recordPatches := true, idleAfterSeconds := some (.finite false 1 64) } }
    let broken := settleFrom script 0 2 { unstarted.setStatus .busy with phase := .ready }
    let moved := broken.cancel.markPaused.place (some (.start "/end"))
    let c := settleFrom script 0 1 { moved.setStatus .busy with phase := .ready }
    (Recorder.attach unstarted).stateAt c 1 = .ok ⟨[], .object [], none⟩ ∧
      c.store.own = .object [("seen", .bool true)] :=
  ⟨rfl, rfl⟩

end Conversation

end Dialogue
