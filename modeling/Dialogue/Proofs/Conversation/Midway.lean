import Dialogue.Proofs.Conversation.Replay
import Dialogue.Proofs.History.Settling
/-!
# Recorders that are attached within a turn

A recorder that is attached while a turn waits takes over the variables as they are by then. The end
of that turn tells of the changes since its beginning, so its replay carries out changes that have
happened already. This goes well exactly if the variables at the attachment stand between those at
the beginning and those at the end of the turn. Whether it goes well is settled by this first end:
the changes of later turns lead on from any variables that are the same.

## Main definitions

- `Conversation.Resumed` — what a run that begins within a turn has told

## Main statements

- `Recorder.currentState_iff` — the state after all entries
- `Conversation.Run.moment` — each end of a turn is the end of a run
- `Conversation.Resumed.continues`, `Conversation.Resumed.ends` — one step of a run
- `Conversation.replay_midway`
-/

namespace Dialogue

variable {σ : Type}

namespace Recorder

/-- The state after all entries has the variables that the changes lead to. -/
theorem currentState_iff (c₀ c : Conversation σ) (own : Json) :
    (∃ state, (attach c₀).currentState c = .ok state ∧ state.own.same own) ↔
      Conversation.LeadTo (attach c₀).start (Event.changesTold (c₀.since c)) own := by
  have hentries : (attach c₀).entries c = HistoryEntry.ofEvents (c₀.since c) := rfl
  have hpatches : (HistoryEntry.ofEvents (c₀.since c)).flatMap (·.patches) =
      Event.changesTold (c₀.since c) := HistoryEntry.patches_ofEventsFrom [] _
  rw [currentState, hentries, ← hpatches]
  constructor
  · rintro ⟨state, hstate, hsame⟩
    exact ⟨state.own, HistoryState.patch_of_replay hstate, hsame⟩
  · rintro ⟨result, hresult, hsame⟩
    obtain ⟨location, hreplay⟩ := HistoryState.replay_of_patch hresult
    exact ⟨_, hreplay, hsame⟩

theorem tidy_start {c : Conversation σ} (h : c.store.own.Tidy) : (attach c).start.Tidy := by
  rw [attach]
  split
  · exact Json.tidy_object.2 ⟨.nil, by simp⟩
  · exact h

end Recorder

namespace Conversation

variable {script : Script σ} {c₀ c c' : Conversation σ}

/-- What a run that begins within a turn has told: before the first end of a turn the variables from
the beginning are still those; the first end tells of the changes since then, and whatever these
lead to, the later ends lead on. -/
structure Resumed (c₀ : Conversation σ) (start : Json) (moments : List (Conversation σ))
    (c : Conversation σ) (told : List Event) : Prop where
  events : c.events.toList = c₀.events.toList ++ told
  length : moments.length = Event.turnsTold told
  before : moments = [] → c₀.base.same c.base ∧ Event.changesTold told = []
  first : ∀ first, moments = [first] → LeadTo start (Event.changesTold told) first.store.own →
    Json.Settles c₀.base start first.store.own
  leads : ∀ first rest, moments = first :: rest → Json.Settles c₀.base start first.store.own →
    LeadTo start (Event.changesTold told) c.base

namespace Resumed

variable {start : Json} {told : List Event} {moments : List (Conversation σ)}

theorem refl (h : c₀.base.Tidy) : Resumed c₀ start [] c₀ [] where
  events := (List.append_nil _).symm
  length := rfl
  before _ := ⟨Json.same_refl h, rfl⟩
  first _ h := by cases h
  leads _ _ h := by cases h

/-- Within a turn nothing more is told. -/
theorem continues (h : Resumed c₀ start moments c told) (hstep : Continues c c')
    (hsame : c.base.same c'.base) : ∃ told', Resumed c₀ start moments c' told' := by
  obtain ⟨said, hsaid, hturns, hchanges⟩ := hstep.exists_said
  have hsum : Event.changesTold (told ++ said) = Event.changesTold told := by
    rw [Event.changesTold_append, hchanges, List.append_nil]
  refine ⟨told ++ said, ?_, ?_, fun hmoments => ?_, fun first hmoments hlead => ?_,
    fun first rest hmoments hsettles => ?_⟩
  · rw [hsaid, h.events, List.append_assoc]
  · rw [Event.turnsTold_append, hturns, h.length, Nat.add_zero]
  · obtain ⟨hbase, hnone⟩ := h.before hmoments
    exact ⟨Json.same_trans hbase hsame, hsum.trans hnone⟩
  · rw [hsum] at hlead
    exact h.first first hmoments hlead
  · rw [hsum]
    exact (h.leads first rest hmoments hsettles).same hsame

/-- The first end of a turn decides, and the later ones lead on. -/
theorem ends (h : Resumed c₀ start moments c told) (hstep : Ends c c') (hstart : start.Tidy)
    (hbase : c.base.Tidy) (hown : c'.store.own.Tidy) :
    ∃ told', Resumed c₀ start (moments ++ c.ended c') c' told' := by
  obtain ⟨said, hsaid, hturns, hchanges, hended⟩ := hstep.exists_said
  have hnow : c'.base = c'.store.own := base_of_free hstep.free
  rw [hended]
  refine ⟨told ++ said, ?_, ?_, fun hnone => ?_, fun first hmoments hlead => ?_,
    fun first rest hmoments hsettles => ?_⟩
  · rw [hsaid, h.events, List.append_assoc]
  · rw [List.length_append, h.length, Event.turnsTold_append, hturns, List.length_singleton]
  · exact absurd hnone (by simp)
  · -- This end is the first one.
    obtain ⟨rfl, rfl⟩ : moments = [] ∧ c' = first := by
      simpa [List.append_eq_singleton_iff] using hmoments
    obtain ⟨hsame, hnone⟩ := h.before rfl
    rw [Event.changesTold_append, hnone, List.nil_append, hchanges] at hlead
    have hsettles := (Json.leadsFrom_iff_settles hbase hstart hown).1 hlead
    exact hsettles.congr (Json.same_symm hsame)
  · rw [Event.changesTold_append, hchanges, hnow]
    cases moments with
    | nil =>
      obtain ⟨rfl, rfl⟩ : c' = first ∧ [] = rest := by simpa using hmoments
      obtain ⟨hsame, hnone⟩ := h.before rfl
      rw [hnone, List.nil_append]
      exact (hsettles.congr hsame).leadsFrom hbase hstart hown
    | cons first' rest' =>
      obtain ⟨rfl, -⟩ := List.cons.inj hmoments
      exact (h.leads first' rest' rfl hsettles).diff hbase hown

end Resumed

/-! ### Runs -/

section

variable {ends : List (Conversation σ)}

theorem Run.resumed {start : Json} (hrun : Run script c₀ ends c) (hc : Reachable script c₀)
    (hrecord : script.settings.recordPatches) (hscript : script.Tidy) (hc₀ : Records c₀)
    (hstart : start.Tidy) : ∃ told, Resumed c₀ start ends c told := by
  induction hrun with
  | refl => exact ⟨[], .refl hc₀.base⟩
  | @loop ends c c' clock label hrun h hkept ih =>
    obtain ⟨told, htold⟩ := ih
    have hsound := (hrun.reachable hc).sound
    have hrecords := hrun.records hc hrecord hscript hc₀
    rcases h.continues_or_ends hrecord hscript hsound hrecords with hstep | hstep
    · rw [hstep.ended, List.append_nil]
      exact htold.continues hstep (hstep.base_same hrecords.base hkept)
    · exact htold.ends hstep hstart hrecords.base
        (h.records hrecord hscript hsound hrecords).store.own
  | @call ends c c' hrun h ih =>
    obtain ⟨told, htold⟩ := ih
    obtain ⟨hstep, hbase⟩ := h.continues (hrun.reachable hc).sound
    refine htold.continues hstep ?_
    rw [hbase]
    exact Json.same_refl (hrun.records hc hrecord hscript hc₀).base

/-- **Each end of a turn is the end of a run**, and more events come after it. -/
theorem Run.moment {n : Nat} {moment : Conversation σ} (hrun : Run script c₀ ends c)
    (hc : Reachable script c₀) (hrecord : script.settings.recordPatches) (hscript : script.Tidy)
    (hc₀ : Records c₀) (hn : ends[n]? = some moment) :
    Run script c₀ (ends.take (n + 1)) moment ∧ moment.phase.suspended? = none ∧
      c₀.since moment <+: c₀.since c := by
  induction hrun with
  | refl => cases hn
  | @loop ends c c' clock label hrun h hkept ih =>
    have hrecords := hrun.records hc hrecord hscript hc₀
    rcases h.continues_or_ends hrecord hscript (hrun.reachable hc).sound hrecords with hstep | hstep
    · obtain ⟨said, hsaid, -⟩ := hstep.exists_said
      rw [hstep.ended, List.append_nil] at hn ⊢
      obtain ⟨hmoment, hfree, hbefore⟩ := ih hn
      exact ⟨hmoment, hfree, hbefore.trans (since_extends hsaid)⟩
    · obtain ⟨said, hsaid, -, -, hended⟩ := hstep.exists_said
      rw [hended] at hn ⊢
      rw [List.getElem?_append] at hn
      split at hn
      · next hlt =>
        obtain ⟨hmoment, hfree, hbefore⟩ := ih hn
        rw [List.take_append_of_le_length hlt]
        exact ⟨hmoment, hfree, hbefore.trans (since_extends hsaid)⟩
      · next hge =>
        -- Past the ends so far there is only the new one, and the run so far ends there.
        obtain ⟨hzero, rfl⟩ : n - ends.length = 0 ∧ c' = moment := by
          simpa [List.getElem?_singleton] using hn
        have hall : (ends ++ [c']).length ≤ n + 1 := by
          rw [List.length_append, List.length_singleton]
          omega
        rw [List.take_of_length_le hall, ← hended]
        exact ⟨.loop hrun h hkept, hstep.free, List.prefix_refl _⟩
  | @call ends c c' hrun h ih =>
    obtain ⟨hstep, -⟩ := h.continues (hrun.reachable hc).sound
    obtain ⟨said, hsaid, -⟩ := hstep.exists_said
    obtain ⟨hmoment, hfree, hbefore⟩ := ih hn
    exact ⟨hmoment, hfree, hbefore.trans (since_extends hsaid)⟩

/-- The number of ends of turns is what the events tell of. -/
theorem Run.length_ends (hrun : Run script c₀ ends c) (hc : Reachable script c₀)
    (hrecord : script.settings.recordPatches) (hscript : script.Tidy) (hc₀ : Records c₀) :
    ends.length = Event.turnsTold (c₀.since c) := by
  obtain ⟨told, htold⟩ := hrun.resumed hc hrecord hscript hc₀ hc₀.base
  rw [since_of_events htold.events]
  exact htold.length

end

/-- **Replays of a turn that has begun.** A recorder is attached at any time, so also while a turn
waits for an answer. Whatever happens from then on, as long as the host writes no variable, it tells
the end of each of the turns. At the end of the turn that was under way, and at every later one, the
state after all entries has the variables as they are then: exactly if those at the attachment stand
between those at the beginning and those at the end of the turn that was under way. -/
theorem replay_midway {first : Conversation σ} {rest : List (Conversation σ)}
    (hrecord : script.settings.recordPatches) (hscript : script.Tidy) (hc : Reachable script c₀)
    (hc₀ : Records c₀) (hrun : Run script c₀ (first :: rest) c) :
    (∀ n moment, (first :: rest)[n]? = some moment →
        Event.turnsTold (c₀.since moment) = n + 1 ∧ c₀.since moment <+: c₀.since c) ∧
      (first :: rest).length = Event.turnsTold (c₀.since c) ∧
      ((∀ moment ∈ first :: rest, ∃ state, (Recorder.attach c₀).currentState moment = .ok state ∧
          state.own.same moment.store.own) ↔
        Json.Settles c₀.base (Recorder.attach c₀).start first.store.own) := by
  have hstart := Recorder.tidy_start hc₀.store.own
  refine ⟨fun n moment hn => ?_, hrun.length_ends hc hrecord hscript hc₀, fun h => ?_,
    fun h moment hmoment => ?_⟩
  · obtain ⟨hupto, -, hbefore⟩ := hrun.moment hc hrecord hscript hc₀ hn
    have hlt : n < (first :: rest).length := (List.getElem?_eq_some_iff.1 hn).1
    refine ⟨?_, hbefore⟩
    rw [← hupto.length_ends hc hrecord hscript hc₀, List.length_take]
    omega
  · have hn : (first :: rest)[0]? = some first := rfl
    obtain ⟨hupto, -, -⟩ := hrun.moment hc hrecord hscript hc₀ hn
    obtain ⟨told, htold⟩ := hupto.resumed hc hrecord hscript hc₀ hstart
    have hlead := (Recorder.currentState_iff c₀ first first.store.own).1
      (h first List.mem_cons_self)
    rw [since_of_events htold.events] at hlead
    exact htold.first first rfl hlead
  · obtain ⟨n, hn⟩ := List.getElem?_of_mem hmoment
    obtain ⟨hupto, hfree, -⟩ := hrun.moment hc hrecord hscript hc₀ hn
    obtain ⟨told, htold⟩ := hupto.resumed hc hrecord hscript hc₀ hstart
    refine (Recorder.currentState_iff c₀ moment moment.store.own).2 ?_
    rw [since_of_events htold.events, ← base_of_free hfree]
    exact htold.leads first _ List.take_succ_cons h

/-- The conversation whose turn waits for an answer, with a variable already stored. -/
theorem records_waiting : Reachable keeper waiting ∧ Records waiting := by
  have hc : Reachable keeper unstarted := .initial .empty ()
  have hempty : unstarted.store.Tidy := ⟨Json.tidy_object.2 ⟨.nil, by simp⟩, fun _ h => by cases h⟩
  have hstarted : Run keeper unstarted [] { unstarted.setStatus .busy with phase := .ready } :=
    .call .refl (.start rfl)
  obtain ⟨ends, hrun⟩ := hstarted.settleFrom hc rfl 0 2
  exact ⟨hrun.reachable hc, hrun.records hc rfl tidy_keeper (.of_free hempty rfl)⟩

/-- The turn that is cut off has stored its variable when the recorder is attached, and the end
tells of it once more. -/
theorem replay_midway_cutOff :
    let first := settleFrom keeper 0 1 waiting.cancel
    Run keeper waiting [first] first ∧
      Event.turnsTold (waiting.since first) = 1 ∧
      ∃ state, (Recorder.attach waiting).currentState first = .ok state ∧
        state.own.same first.store.own := by
  intro first
  have hadvance : waiting.cancel.advance? keeper 0 = some first := rfl
  obtain ⟨label, hstep⟩ := advances_of_advance? hadvance
  have hrun : Run keeper waiting [first] first :=
    .loop (.call .refl (.cancel waiting)) hstep (by cases ·)
  obtain ⟨hc, hrecords⟩ := records_waiting
  obtain ⟨hmoments, -, hreplays⟩ := replay_midway rfl tidy_keeper hc hrecords hrun
  have hsettles : Json.Settles (.object []) (.object [("seen", .bool true)])
      (.object [("seen", .bool true)]) :=
    .object (fun _ h => by cases h) (fun _ h => .inr h) fun _ _ _ _ h => by cases h
  exact ⟨hrun, (hmoments 0 first rfl).1, hreplays.2 hsettles first List.mem_cons_self⟩

/-- A turn that has dropped the variables tells of their removal at its end, but where the recorder
starts they are gone. -/
example :
    let step : Step :=
      { clearVariables := true, input := some { kind := .text, variablePath := some "name" } }
    let script : Script Unit := { keeper with document := { pages := [("/start", [step])] } }
    let unstarted := Conversation.ofScript script ⟨.object [("old", .null)], none⟩ ()
    let waiting := settleFrom script 0 2 { unstarted.setStatus .busy with phase := .ready }
    (Recorder.attach waiting).currentState (settleFrom script 0 1 waiting.cancel) =
      .error (.pathNotFound [.key "old"]) :=
  rfl

end Conversation

end Dialogue
