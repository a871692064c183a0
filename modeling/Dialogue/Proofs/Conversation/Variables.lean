import Dialogue.Proofs.Conversation.Course
import Dialogue.Proofs.Path
import Dialogue.Proofs.Turn.Storing
/-!
# What becomes of the variables

A small step leaves the variables alone, writes down where a detour to the idle page leads back to,
or carries a turn on, which stores what its directives store. A property of the variables that the
authored steps, the detours and the host keep holds in every state.

## Main definitions

- `Conversation.detours` — where the user was idle when a turn was abandoned for the idle page
- `Conversation.Handles` — what a small step does with the variables and with the turn that waits
- `Conversation.Proceeds` — a conversation whose host writes at some paths only
- `Store.Rooted` — the variables are an object

## Main statements

- `Conversation.Advances.handles`
- `Conversation.Proceeds.keeps` — every state
- `Store.rooted_set_iff`, `Conversation.variables_rooted` — the variables stay an object
-/

namespace Dialogue

variable {σ : Type} {script : Script σ} {clock : Nat}

/-- The location of a turn that was abandoned because the user was idle. -/
def Event.detour? : Event → Option Location
  | .interrupted location .idle _ _ => some location
  | _ => none

theorem Event.detour?_of_quiet {event : Event} (h : event.endsTurn = false) :
    event.detour? = none := by
  cases event with
  | interrupted => cases h
  | _ => rfl

/-- Events that do not tell of something add nothing to what was told of it. -/
theorem Event.filterMap_eq_nil {α : Type} {tell : Event → Option α} {news : Array Event}
    (h : ∀ e ∈ news, tell e = none) : news.toList.filterMap tell = [] :=
  List.filterMap_eq_nil_iff.2 fun e he => h e (Array.mem_def.2 he)

namespace Conversation

/-- Where the user was idle each time a turn was abandoned for the idle page. -/
def detours (c : Conversation σ) : List Location := c.events.toList.filterMap Event.detour?

variable {c c' : Conversation σ}

/-- Events that end no turn tell of no detour. -/
theorem detours_of_quiet {news : Array Event} (hevents : c'.events = c.events ++ news)
    (hquiet : ∀ e ∈ news, e.endsTurn = false) : c'.detours = c.detours := by
  have hnone : news.toList.filterMap Event.detour? = [] :=
    Event.filterMap_eq_nil fun e he => Event.detour?_of_quiet (hquiet e he)
  rw [detours, detours, hevents, Array.toList_append, List.filterMap_append, hnone, List.append_nil]

/-- An event after events that end no turn. -/
theorem detours_of_event (event : Event) {talk news : Array Event}
    (hevents : c'.events = c.events ++ talk ++ #[event] ++ news)
    (htalk : ∀ e ∈ talk, e.endsTurn = false) (hnews : ∀ e ∈ news, e.endsTurn = false) :
    c'.detours = c.detours ++ event.detour?.toList := by
  have hnone : ∀ quiet : Array Event, (∀ e ∈ quiet, e.endsTurn = false) →
      quiet.toList.filterMap Event.detour? = [] := fun quiet hquiet =>
    Event.filterMap_eq_nil fun e he => Event.detour?_of_quiet (hquiet e he)
  simp only [detours, hevents, Array.toList_append, List.filterMap_append, hnone _ htalk,
    hnone _ hnews, List.append_nil, List.filterMap_cons, List.filterMap_nil]
  cases event.detour? <;> rfl

/-- Taking up a turn changes no variable and is no detour. -/
theorem Resumes.same {d : Conversation σ} {turn : Suspended} (h : Resumes script clock c turn d) :
    d.store = c.store ∧ d.detours = c.detours := by
  obtain ⟨status, queue, inputs, news, rfl, -, hquiet⟩ := h.eq
  exact ⟨rfl, detours_of_quiet rfl hquiet⟩

theorem store_absorb (c : Conversation σ) (scene : Scene σ) :
    (c.absorb script scene).store = scene.store := by
  rw [absorb_eq]

theorem detours_absorb (c : Conversation σ) (scene : Scene σ) :
    (c.absorb script scene).detours = c.detours := by
  rw [absorb_eq]
  exact detours_of_quiet rfl (Notice.quiet_events _)

/-- A turn that is completed changes no variable at its end and is no detour. -/
theorem finish_same (script : Script σ) (before : Option Json) {turn : Turn}
    (h : turn.interrupted = none) (fault : Option Fault) (c : Conversation σ) :
    (c.finish script before turn fault).store = c.store ∧
      (c.finish script before turn fault).detours = c.detours ∧
      (c.finish script before turn fault).phase = .ready := by
  obtain ⟨head, outputs, talk, news, hfinish, htalk, hnews⟩ :=
    finish_of_completed script before h fault c
  rw [hfinish]
  refine ⟨rfl, ?_, rfl⟩
  exact (detours_of_event _ rfl htalk (Event.quiet_of_mute hnews)).trans (List.append_nil _)

/-- What a small step does with the variables and with the turn that waits. -/
inductive Handles (script : Script σ) (clock : Nat) (c c' : Conversation σ) : Prop where
  | keeps (hstore : c'.store = c.store) (hdetours : c'.detours = c.detours)
      (hturn : ∀ waiting, c'.phase.suspended? = some waiting → c.phase.suspended? = some waiting)
  | detours {turn : Suspended} (hphase : c.phase.suspended? = some turn)
      (hstore : c'.store = c.store.set returnVariable (.text turn.turn.location.text))
      (hdetours : c'.detours = c.detours ++ [turn.turn.location])
      (hfree : c'.phase.suspended? = none)
  | carries {turn : Suspended} {d : Conversation σ} {progress : Progress} {after : Turn}
      {scene : Scene σ} (h : Resumes script clock c turn d)
      (hrun : turn.turn.run script.host turn.left { store := c.store, world := d.world } =
        (progress, after, scene))
      (hstore : c'.store = scene.store) (hdetours : c'.detours = c.detours)
      (hturn : ∀ waiting, c'.phase.suspended? = some waiting →
        waiting = ⟨after, progress.left, turn.before⟩)

/-- **What a small step does** with the variables and with the turn that waits. -/
theorem Advances.handles {label : Option Turn} (h : Advances script clock c label c')
    (hsound : Sound script c) : Handles script clock c c' := by
  cases h with
  | stop hphase hcancelled =>
    obtain ⟨news, hend, hmute⟩ := endLoop_eq c
    rw [hend]
    exact .keeps rfl (detours_of_quiet rfl (Event.quiet_of_mute hmute)) fun _ h => by cases h
  | wait hphase hcancelled hhead =>
    obtain ⟨news, hsuspend, hmute⟩ := suspend_eq c .waitingInput
    rw [hsuspend]
    exact .keeps rfl (detours_of_quiet rfl (Event.quiet_of_mute hmute)) fun _ h => by cases h
  | lost hphase hcancelled hhead hstep =>
    exact .keeps rfl (detours_of_quiet Array.push_eq_append (by simp [Event.endsTurn]))
      fun _ h => h
  | freefall hphase hcancelled hhead hstep hfall =>
    exact .keeps rfl (detours_of_quiet Array.push_eq_append (by simp [Event.endsTurn]))
      fun _ h => h
  | @enter text rest hphase hqueue =>
    obtain ⟨head, location, freeSteps, inputs, news, henter, hquiet⟩ :=
      enter_received_eq script text { c with queue := rest }
    rw [henter]
    exact .keeps rfl (detours_of_quiet rfl hquiet) fun _ h => by cases h
  | @idle turn deadline hphase hdeadline =>
    have hturn : c.phase.suspended? = some turn := Phase.suspended?_of_asking hphase
    obtain ⟨head, location, status, freeSteps, news, hidle, -, hmute⟩ | ⟨event, hidle, hmute⟩ :=
      goIdle_eq script (hsound.within turn hturn).interrupted c
    · -- The written location is that of the turn, also when the head is moved afterwards.
      rw [hidle]
      refine .detours hturn rfl ?_ rfl
      exact detours_of_event (.interrupted turn.turn.location .idle _ _)
        Array.append_empty.symm (Event.quiet_of_mute hmute) (by simp)
    · rw [hidle]
      refine .keeps rfl (detours_of_quiet rfl fun e he => ?_) fun _ h => hturn.trans h
      rw [Array.mem_singleton.1 he]
      exact Event.endsTurn_of_isMute hmute
  | @abandon turn hphase hcancelled =>
    obtain ⟨head, location, store, freeSteps, news, habandon, haborted, -, hmute⟩ :=
      abandon_eq script (hsound.within turn hphase).interrupted .aborted c
    obtain ⟨rfl, rfl, rfl⟩ := haborted rfl
    rw [habandon]
    refine .keeps rfl ?_ fun _ h => by cases h
    exact (detours_of_event (.interrupted turn.turn.location .aborted _ _)
      Array.append_empty.symm (Event.quiet_of_mute hmute) (by simp)).trans (List.append_nil _)
  | @complete d turn fault after scene h hrun =>
    have hinterrupted : after.interrupted = none := (h.within_run hsound hrun).interrupted
    obtain ⟨hstore, hdetours⟩ := h.same
    obtain ⟨hstore', hdetours', hphase⟩ :=
      finish_same script turn.before hinterrupted fault (d.absorb script scene)
    refine .carries h (hstore ▸ hrun) (hstore'.trans (store_absorb d scene))
      (hdetours'.trans ((detours_absorb d scene).trans hdetours)) fun _ hwaiting => ?_
    rw [hphase] at hwaiting
    cases hwaiting
  | @ask d turn left after scene h hrun =>
    obtain ⟨hstore, hdetours⟩ := h.same
    obtain ⟨phase, news, hask, hphase, hmute⟩ :=
      ask_eq script clock ⟨after, left, turn.before⟩ (d.absorb script scene)
    rw [hask]
    refine .carries h (hstore ▸ hrun) (store_absorb d scene) ?_ fun _ hwaiting => ?_
    · exact (detours_of_quiet rfl (Event.quiet_of_mute hmute)).trans
        ((detours_absorb d scene).trans hdetours)
    · rcases hphase with rfl | ⟨deadline, rfl⟩
      · cases hwaiting
      · exact (Option.some.inj hwaiting).symm
  | @rest d turn duration left after scene h hrun =>
    obtain ⟨hstore, hdetours⟩ := h.same
    exact .carries h (hstore ▸ hrun) (store_absorb d scene) ((detours_absorb d scene).trans hdetours)
      fun _ hwaiting => (Option.some.inj hwaiting).symm

/-- A turn that is taken up is put together from authored steps, as the turns that wait are. -/
theorem Resumes.drawnFrom {d : Conversation σ} {turn : Suspended} (h : Resumes script clock c turn d)
    (hc : ∀ waiting, c.phase.suspended? = some waiting →
      waiting.turn.step.DrawnFrom script.document.authored) :
    turn.turn.step.DrawnFrom script.document.authored := by
  cases h with
  | @begin location step hphase hcancelled hhead hstep hfall =>
    exact step.drawnFrom_authored.mono fun part => Document.mem_authored_of_step? hstep
  | @answer turn deadline text rest hphase hqueue =>
    exact hc turn (Phase.suspended?_of_asking hphase)
  | wake hphase htime => exact hc _ (Phase.suspended?_of_resting hphase)

/-- **Every turn that waits is put together from authored steps.** -/
theorem Reachable.drawnFrom (h : Reachable script c) {waiting : Suspended}
    (hwaiting : c.phase.suspended? = some waiting) :
    waiting.turn.step.DrawnFrom script.document.authored := by
  induction h generalizing waiting with
  | initial store world => cases hwaiting
  | loop hc h ih =>
    cases h.handles hc.sound with
    | keeps hstore hdetours hturn => exact ih (hturn waiting hwaiting)
    | detours hphase hstore hdetours hfree => cases hfree.symm.trans hwaiting
    | @carries turn d progress after scene h hrun hstore hdetours hturn =>
      rw [hturn waiting hwaiting]
      exact Turn.drawnFrom_run (h.drawnFrom fun _ => ih) hrun
  | call hc h ih =>
    obtain ⟨hturn, -⟩ := h.suspended hwaiting
    exact ih hturn
  | write hc h ih =>
    obtain ⟨store, rfl⟩ := setVariable_eq h
    exact ih hwaiting

/-- A conversation goes on by its loop, by calls of its host, and by writes of its host at some
paths. -/
inductive Proceeds (script : Script σ) (writes : String → Prop) (c₀ : Conversation σ) :
    Conversation σ → Prop where
  | refl : Proceeds script writes c₀ c₀
  | loop {c c' : Conversation σ} {clock : Nat} {label : Option Turn}
      (hc : Proceeds script writes c₀ c) (h : Advances script clock c label c') :
      Proceeds script writes c₀ c'
  | call {c c' : Conversation σ} (hc : Proceeds script writes c₀ c) (h : Calls script c c') :
      Proceeds script writes c₀ c'
  | write {c c' : Conversation σ} {path : String} {value : Json}
      (hc : Proceeds script writes c₀ c) (hpath : writes path)
      (h : c.setVariable path value = some c') : Proceeds script writes c₀ c'

variable {writes : String → Prop} {c₀ : Conversation σ}

theorem Proceeds.reachable (h : Proceeds script writes c₀ c) (hc₀ : Reachable script c₀) :
    Reachable script c := by
  induction h with
  | refl => exact hc₀
  | loop _ h ih => exact .loop ih h
  | call _ h ih => exact .call ih h
  | write _ _ h ih => exact .write ih h

/-- What the loop does at one instant is a way to go on. -/
theorem Proceeds.settleFrom (h : Proceeds script writes c₀ c) (clock fuel : Nat) :
    Proceeds script writes c₀ (c.settleFrom script clock fuel) := by
  induction fuel generalizing c with
  | zero => exact h
  | succ fuel ih =>
    rw [Conversation.settleFrom]
    cases hadvance : c.advance? script clock with
    | none => exact h
    | some c' =>
      obtain ⟨label, hstep⟩ := advances_of_advance? hadvance
      exact ih (h.loop hstep)

/-- A write of the host is a write to the store. -/
theorem setVariable_store {path : String} {value : Json} (h : c.setVariable path value = some c') :
    c' = { c with store := c.store.set path value } := by
  obtain ⟨store, hset, rfl⟩ := Option.map_eq_some_iff.1 h
  rw [Store.set, hset, Option.getD_some]

/-- **A property of the variables that everything keeps holds in every state.** -/
theorem Proceeds.keeps {P : Store → Prop} (hkept : Store.KeptBy script.document.authored P)
    (hdetour : ∀ (location : Location) store, P store →
      P (store.set returnVariable (.text location.text)))
    (hwrites : ∀ path, writes path → ∀ store value, P store → P (Store.set store path value))
    (h : Proceeds script writes c₀ c) (hc₀ : Reachable script c₀) (hstore : P c₀.store) :
    P c.store := by
  induction h with
  | refl => exact hstore
  | loop hc h ih =>
    have hreach := hc.reachable hc₀
    cases h.handles hreach.sound with
    | keeps hsame => exact hsame ▸ ih
    | detours hphase hsame => exact hsame ▸ hdetour _ _ ih
    | carries hresumes hrun hsame =>
      have hstep := hresumes.drawnFrom fun _ => hreach.drawnFrom
      exact hsame ▸ hkept.run hstep ih hrun
  | call hc h ih =>
    obtain ⟨-, hsame, -⟩ := h.keeps (hc.reachable hc₀).sound
    exact hsame ▸ ih
  | write hc hpath h ih =>
    rw [setVariable_store h]
    exact hwrites _ hpath _ _ ih

end Conversation

/-! ### An object of variables -/

namespace Store

/-- The variables are an object. -/
def Rooted (store : Store) : Prop := ∃ fields, store.own = .object fields

/-- Writing inside an object leaves an object. -/
theorem exists_object_put {fields : Keyed Json} {p : Path} (h : p ≠ []) (value : Json) :
    ∃ fields', (Json.object fields).put p value = .object fields' := by
  cases p with
  | nil => exact absurd rfl h
  | cons s rest => exact ⟨_, rfl⟩

/-- **A write keeps the object exactly when its path names something or its value is an object.** -/
theorem rooted_set_iff {store : Store} (h : store.Rooted) (path : String) (value : Json) :
    (store.set path value).Rooted ↔
      (∃ c ∈ path.toList, c ≠ '.') ∨ ∃ fields, value = .object fields := by
  have hnames : (∃ c ∈ path.toList, c ≠ '.') ↔ Path.parse path ≠ [] := by
    rw [Ne, Path.parse_eq_nil_iff, not_forall]
    simp only [Classical.not_imp]
  obtain ⟨fields, hfields⟩ := h
  rw [hnames]
  by_cases hparse : Path.parse path = []
  · -- The root is in reach of every write, and the value takes its place.
    have hset : (store.set path value).own = value := by
      rw [set, set?, hparse]
      rfl
    rw [Rooted, hset]
    simp [hparse]
  · refine iff_of_true ?_ (.inl hparse)
    unfold set set?
    dsimp only
    split
    · exact ⟨fields, hfields⟩
    · rw [Option.getD_some, Rooted, hfields]
      exact exists_object_put hparse value

end Store

namespace Conversation

/-- **The variables stay an object**, in every state, when each path that an authored step stores at
or the host writes at names something. A path of points alone names nothing: a value that is stored
there takes the place of all variables. -/
theorem variables_rooted {writes : String → Prop} {store : Store} {world : σ} {c : Conversation σ}
    (hpaths : ∀ step ∈ script.document.authored, ∀ path ∈ step.outputs,
      ∃ ch ∈ path.toList, ch ≠ '.')
    (hwrites : ∀ path, writes path → ∃ ch ∈ path.toList, ch ≠ '.') (hstore : store.Rooted)
    (h : Proceeds script writes (.ofScript script store world) c) :
    c.store.Rooted ∧ ∀ path value, (c.store.set path value).Rooted ↔
      (∃ ch ∈ path.toList, ch ≠ '.') ∨ ∃ fields, value = .object fields := by
  have hkept : Store.KeptBy script.document.authored Store.Rooted := by
    refine ⟨fun step hstep path hpath store value hrooted => ?_, fun _ _ _ store _ => ⟨[], rfl⟩⟩
    exact (Store.rooted_set_iff hrooted path value).2 (.inl (hpaths step hstep path hpath))
  have hdetour : ∀ (location : Location) (store : Store), store.Rooted →
      (store.set returnVariable (.text location.text)).Rooted := by
    intro location store hrooted
    exact (Store.rooted_set_iff hrooted _ _).2 (.inl ⟨'_', by decide, by decide⟩)
  have hrooted : c.store.Rooted := by
    refine h.keeps hkept hdetour (fun path hpath store value hrooted => ?_)
      (.initial store world) hstore
    exact (Store.rooted_set_iff hrooted path value).2 (.inl (hwrites path hpath))
  exact ⟨hrooted, Store.rooted_set_iff hrooted⟩

/-- A document that notes a visit before it asks. -/
def guestbook : Script Unit where
  document := { pages := [("/start", [
    { input := some { kind := .set, variablePath := some "seen", value := .bool true } },
    { links := some [("back", "/start")] }])] }
  settings := {}
  host := ⟨[], fun _ world => (.error "offline", world)⟩

/-- The variables of a guest. -/
def guest : Store := ⟨.object [("name", .text "Ann")], none⟩

/-- The conversation once the visit is noted and the guest is asked. -/
def noted : Conversation Unit :=
  settleFrom guestbook 0 3 { (ofScript guestbook guest ()).setStatus .busy with phase := .ready }

theorem variables_rooted_noted :
    Proceeds guestbook (fun _ => False) (.ofScript guestbook guest ()) noted ∧
      noted.store.own = .object [("name", .text "Ann"), ("seen", .bool true)] ∧
      noted.store.Rooted ∧ ¬ (noted.store.set "" (.whole 3)).Rooted := by
  have hstarted : Proceeds guestbook (fun _ => False) (.ofScript guestbook guest ()) noted :=
    (Proceeds.call .refl (.start rfl)).settleFrom 0 3
  have hseen : ∀ step ∈ guestbook.document.authored, ∀ path ∈ step.outputs, path = "seen" := by
    decide
  have hpaths : ∀ step ∈ guestbook.document.authored, ∀ path ∈ step.outputs,
      ∃ ch ∈ path.toList, ch ≠ '.' := by
    intro step hstep path hpath
    rw [hseen step hstep path hpath]
    exact ⟨'s', by decide, by decide⟩
  obtain ⟨hrooted, hset⟩ := variables_rooted hpaths (fun _ h => h.elim) ⟨_, rfl⟩ hstarted
  refine ⟨hstarted, by rfl, hrooted, fun h => ?_⟩
  rcases (hset "" (.whole 3)).1 h with ⟨ch, hch, -⟩ | ⟨fields, hfields⟩
  · exact absurd hch (by simp)
  · cases hfields

end Conversation

end Dialogue
