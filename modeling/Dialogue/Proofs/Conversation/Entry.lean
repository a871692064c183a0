import Dialogue.Proofs.Conversation.Course
import Dialogue.Proofs.Conversation.Pause
import Dialogue.Proofs.Path
/-!
# The entry page

Without triggers a conversation begins at its entry page, begins there again when a page is left, and
enters there when an input comes while no step is current. At first and after a page the setting is
the id of a page; an input reads it as a location. The two agree for ids without an index.

## Main definitions

- `Script.entrance` — where an input enters

## Main statements

- `Conversation.Moves.head_of_leaving` — where a page that is left leads
- `Conversation.advance?_entering` — where an input enters
- `Conversation.entry_places`
-/

namespace Dialogue

variable {σ : Type} {script : Script σ}

namespace Script

/-- Where an input enters that needs no trigger: what the entry page reads as leads to. -/
def entrance (script : Script σ) : Option Location :=
  (Location.parse? script.settings.entryPage).bind script.landing

theorem landing_eq_some {target l : Location} (h : script.landing target = some l) : l = target := by
  unfold landing at h
  split at h
  · exact (Option.some.inj h).symm
  · cases h

/-- **Where an input enters is where a page that is left leads** exactly if the id of the entry page
holds no opening bracket and ends in no closing one, or neither leads to a step. -/
theorem entrance_eq_iff : script.entrance = script.landing script.entry ↔
    (script.settings.entryPage ≠ "" ∧ '[' ∉ script.settings.entryPage.toList ∧
        script.settings.entryPage.toList.getLast? ≠ some ']') ∨
      script.entrance = none ∧ script.landing script.entry = none := by
  rw [← Location.parse?_eq_start_iff]
  constructor
  · intro hsame
    cases hlanding : script.landing script.entry with
    | none => exact .inr ⟨hsame.trans hlanding, rfl⟩
    | some l =>
      obtain ⟨target, hparse, htarget⟩ := Option.bind_eq_some_iff.1 (hsame.trans hlanding)
      rw [hparse, ← landing_eq_some htarget, landing_eq_some hlanding]
      exact .inl rfl
  · rintro (hparse | ⟨hentrance, hlanding⟩)
    · rw [entrance, hparse]
      rfl
    · rw [hentrance, hlanding]

end Script

namespace Conversation

variable {c c' : Conversation σ}

/-- **A turn that leads off its page** leads to the first step of the entry page, if there is one. -/
theorem Moves.head_of_leaving (h : Moves script c c') (hc : Reachable script c)
    (htriggers : script.document.hasTriggers = false) {location : Location} {step : Step}
    {patches : Option (List Patch)} (hevent : .step location step none patches ∈ c.since c') :
    c'.head = script.landing script.entry := by
  rcases h.tells hc with ⟨news, hevents, hquiet⟩ | ⟨talk, news, event, hevents, -, htalk, hnews, hhead⟩
  · rw [since_of_events (by rw [hevents, Array.toList_append])] at hevent
    cases hquiet _ (Array.mem_toList_iff.1 hevent)
  · have hsince : c.since c' = talk.toList ++ event :: news.toList :=
      since_of_events (by simp [hevents])
    rw [hsince, List.mem_append, List.mem_cons] at hevent
    -- Only one event of the move ends a turn.
    rcases hevent with hevent | rfl | hevent
    · cases htalk _ (Array.mem_toList_iff.1 hevent)
    · have harrival : script.reached (.step location step none patches) = script.arrival none := rfl
      rw [hhead, harrival, Script.arrival, htriggers]
      rfl
    · cases hnews _ (Array.mem_toList_iff.1 hevent)

/-- Entering without a trigger moves to the entrance, or nowhere. -/
theorem head_enter (htriggers : script.document.hasTriggers = false) (text : String)
    (hhead : c.head = none) : (c.enter script text).head = script.entrance := by
  have htarget : entryTarget? script text = some script.settings.entryPage :=
    if_neg (by rw [htriggers]; exact Bool.false_ne_true)
  rw [enter, htarget, Script.entrance]
  dsimp only [Location.read]
  cases Location.parse? script.settings.entryPage with
  | none => exact hhead
  | some l =>
    by_cases hstep : (script.document.step? l).isSome
    · simp [Except.bind, Document.navigate, Script.landing, hstep, place]
    · simp [Except.bind, Document.navigate, Script.landing, hstep, report, emit, hhead]

/-- **An input that comes while no step is current** enters at the entrance. -/
theorem advance?_entering (hc : Reachable script c) (htriggers : script.document.hasTriggers = false)
    (hphase : c.phase = .entering) (hcancelled : c.cancelled = false) {text : String}
    {rest : List String} (hqueue : c.queue = text :: rest) (clock : Nat) :
    ∃ c', c.advance? script clock = some c' ∧ c'.head = script.entrance := by
  have hhead : (({ c with queue := rest } : Conversation σ).received script text).head = none := by
    obtain ⟨inputs, news, heq, -⟩ := received_eq script { c with queue := rest } text
    rw [heq]
    exact hc.head_of_entering hphase
  exact ⟨(({ c with queue := rest } : Conversation σ).received script text).enter script text,
    by simp [advance?, hphase, hcancelled, hqueue], head_enter htriggers text hhead⟩

/-- **Where a conversation without triggers begins.** At first, and after every turn that leads off its
page, it is at the first step of the page that the setting names, if the page has one. An input that
comes while no step is current enters at the location that the setting reads as. These are the same
place exactly if the name holds no opening bracket and ends in no closing one, or neither is a step. -/
theorem entry_places (htriggers : script.document.hasTriggers = false) :
    (∀ store world, (ofScript script store world).head = some script.entry) ∧
    (∀ c c', Reachable script c → Moves script c c' → ∀ location step patches,
      .step location step none patches ∈ c.since c' → c'.head = script.landing script.entry) ∧
    (∀ c, Reachable script c → c.phase = .entering → c.cancelled = false → ∀ text rest,
      c.queue = text :: rest → ∀ clock,
        ∃ c', c.advance? script clock = some c' ∧ c'.head = script.entrance) ∧
    (script.entrance = script.landing script.entry ↔
      (script.settings.entryPage ≠ "" ∧ '[' ∉ script.settings.entryPage.toList ∧
          script.settings.entryPage.toList.getLast? ≠ some ']') ∨
        script.entrance = none ∧ script.landing script.entry = none) := by
  refine ⟨fun store world => ?_, fun c c' hc h location step patches hevent => ?_,
    fun c hc hphase hcancelled text rest hqueue clock => ?_, Script.entrance_eq_iff⟩
  · exact if_neg (by rw [htriggers]; exact Bool.false_ne_true)
  · exact h.head_of_leaving hc htriggers hevent
  · exact advance?_entering hc htriggers hphase hcancelled hqueue clock

/-- A page whose id reads as a step of another page. -/
def porch : Script Unit where
  document := { pages := [
    ("/a", [{ message := some (.whole "Zero") }, { links := some [("go", "/a")] }]),
    ("/a[1]", [{ links := some [("on", "/a")] }])] }
  settings := { entryPage := "/a[1]" }
  host := ⟨[], fun _ world => (.error "offline", world)⟩

/-- The conversation once the host has led it away from every step and started it. -/
def away : Conversation Unit :=
  { (({ ofScript porch .empty () with freeSteps := 0 }).place none).setStatus .busy with
    phase := .ready }

/-- The conversation once it waits for any input. -/
def outside : Conversation Unit := settleFrom porch 0 1 away

/-- The conversation once there is one. -/
def knocked : Conversation Unit :=
  { outside.setStatus .busy with queue := outside.queue ++ ["hello"] }

theorem reachable_knocked : Reachable porch knocked := by
  obtain ⟨label, hwait⟩ : ∃ label, Advances porch 0 away label outside := advances_of_advance? rfl
  exact .call (.loop (.call (.call (.initial .empty ()) (.navigate none rfl)) (.start rfl)) hwait)
    (.input "hello" rfl)

/-- The conversation begins at the page itself, and an input enters at the second step of the other
page. -/
theorem entry_places_knocked :
    porch.document.hasTriggers = false ∧
      (ofScript porch .empty ()).head = some ⟨"/a[1]", 0⟩ ∧
      porch.landing porch.entry = some ⟨"/a[1]", 0⟩ ∧
      ∃ c', knocked.advance? porch 0 = some c' ∧ c'.head = some ⟨"/a", 1⟩ := by
  have htriggers : porch.document.hasTriggers = false := rfl
  obtain ⟨hinitial, -, henters, -⟩ := entry_places htriggers
  obtain ⟨c', hadvance, hhead⟩ := henters knocked reachable_knocked rfl rfl "hello" [] rfl 0
  exact ⟨htriggers, hinitial .empty (), rfl, c', hadvance, hhead.trans (by decide +kernel)⟩

end Conversation

end Dialogue
