import Dialogue.Document.Reader
import Dialogue.Proofs.Conversation.Course
import Dialogue.Proofs.Conversation.Faults
import Dialogue.Proofs.Path
import Dialogue.Proofs.Turn.Leading
/-!
# Conversations over checked documents

In a document without errors every target that is known beforehand is a step, and every input can be
asked for. A conversation is led by the targets of authored steps, which are expanded over the
variables, and by the targets of triggers. So over such a document it goes astray only after a target
with a placeholder.

## Main definitions

- `Script.Checked` — the document has no errors, and its entry page and idle page have steps
- `Conversation.Follows` — a conversation goes to a target
- `Conversation.Blames` — a fault comes of a target with a placeholder
- `Conversation.Guided` — what holds along a course

## Main statements

- `Conversation.Moves.guided`, `Conversation.Course.guided` — one move, and a row of moves
- `Conversation.checked_faults` — the faults of a course
-/

namespace Dialogue

variable {σ : Type} {script : Script σ}

/-- The rules find no error in the document, its entry page has a step and an id without brackets,
and its idle page has a step if it is there. -/
structure Script.Checked (script : Script σ) : Prop where
  issues : ∀ issue ∈ script.document.issues, issue.severity ≠ .error
  entry : ∃ step rest, script.document.page? script.settings.entryPage = some (step :: rest)
  /-- The id of a page starts with a slash, so that it is not empty. -/
  named : script.settings.entryPage ≠ ""
  plain : '[' ∉ script.settings.entryPage.toList ∧ ']' ∉ script.settings.entryPage.toList
  idle : script.document.page? script.settings.idlePage ≠ some []

namespace Script.Checked

theorem errorFree (h : script.Checked) : script.document.ErrorFree :=
  Document.errorFree_of_issues h.issues

theorem entry_isSome (h : script.Checked) : (script.document.step? script.entry).isSome := by
  obtain ⟨step, rest, hpage⟩ := h.entry
  simp [Document.step?, Script.entry, Location.start, hpage]

theorem parse?_entryPage (h : script.Checked) :
    Location.parse? script.settings.entryPage = some script.entry :=
  Location.parse?_eq_start_iff.2
    ⟨h.named, h.plain.1, fun hclose => h.plain.2 (List.mem_of_getLast? hclose)⟩

theorem idle_isSome (h : script.Checked)
    (hpage : (script.document.page? script.settings.idlePage).isSome) :
    (script.document.step? script.idle).isSome := by
  obtain ⟨steps, hsteps⟩ := Option.isSome_iff_exists.1 hpage
  cases steps with
  | nil => exact absurd hsteps h.idle
  | cons step rest => simp [Document.step?, Script.idle, Location.start, hsteps]

end Script.Checked

namespace Conversation

/-- A move goes to a target: a directive of the turn that it carries on does, and expands the target
over the variables, or the input that it takes is a trigger. -/
inductive Follows (script : Script σ) (c c' : Conversation σ) : String → String → Prop where
  | turn {clock : Nat} {turn : Suspended} {d : Conversation σ} {target : String} {store : Store}
      (h : Resumes script clock c turn d)
      (hmove : c' = d.carryOn script clock turn.before turn.left turn.turn)
      (hgoes : turn.turn.GoesTo script.host turn.left { store := d.store, world := d.world }
        target store) :
      Follows script c c' target (store.expand target)
  | trigger {text target : String} {rest : List String} (hphase : c.phase = .entering)
      (hqueue : c.queue = text :: rest)
      (hmove : c' = ({ c with queue := rest }.received script text).enter script text)
      (htarget : script.document.trigger? script.settings.caseSensitiveTriggers text = some target) :
      Follows script c c' target target

/-- One of the moves goes to a target that the document names. -/
def Visits (script : Script σ) (moves : List (Conversation σ × Conversation σ))
    (target text : String) : Prop :=
  script.document.Names target ∧ ∃ m ∈ moves, Follows script m.1 m.2 target text

/-- The fault comes of a target with a placeholder that one of the moves goes to. -/
def Blames (script : Script σ) (moves : List (Conversation σ × Conversation σ)) (fault : Fault) :
    Prop :=
  ∃ target text, Visits script moves target text ∧ Lint.opensPlaceholder target.toList ∧
    script.FailsOn text fault

/-- A step is at the location, or one of the moves goes to it. -/
def Leads (script : Script σ) (moves : List (Conversation σ × Conversation σ)) (l : Location) :
    Prop :=
  (script.document.step? l).isSome ∨
    ∃ target text, Visits script moves target text ∧ Location.parse? text = some l

/-- The step of a turn is put together from authored steps, and the turn leads to a step or to where
one of the moves goes. -/
structure LedBy (script : Script σ) (moves : List (Conversation σ × Conversation σ)) (turn : Turn) :
    Prop where
  step : turn.step.DrawnFrom script.document.authored
  link : ∀ l, turn.nextLink = some l → Leads script moves l

/-- Every fault that the rules guard against comes of a target with a placeholder, and the turn that
waits will lead to no other. -/
structure Guided (script : Script σ) (moves : List (Conversation σ × Conversation σ))
    (c : Conversation σ) : Prop where
  faults : ∀ fault ∈ c.faults, fault.isGuarded → Blames script moves fault
  turn : ∀ turn, c.phase.suspended? = some turn → LedBy script moves turn.turn

variable {moves : List (Conversation σ × Conversation σ)}

/-! ### Targets -/

theorem Visits.append {target text : String} (h : Visits script moves target text)
    (later : List (Conversation σ × Conversation σ)) :
    Visits script (moves ++ later) target text := by
  obtain ⟨hnames, m, hm, hfollows⟩ := h
  exact ⟨hnames, m, List.mem_append_left _ hm, hfollows⟩

theorem Blames.append {fault : Fault} (h : Blames script moves fault)
    (later : List (Conversation σ × Conversation σ)) : Blames script (moves ++ later) fault := by
  obtain ⟨target, text, hvisits, hopens, hfails⟩ := h
  exact ⟨target, text, hvisits.append later, hopens, hfails⟩

theorem LedBy.append {turn : Turn} (h : LedBy script moves turn)
    (later : List (Conversation σ × Conversation σ)) : LedBy script (moves ++ later) turn where
  step := h.step
  link l hl := by
    rcases h.link l hl with hstep | ⟨target, text, hvisits, hparse⟩
    · exact .inl hstep
    · exact .inr ⟨target, text, hvisits.append later, hparse⟩

/-- A target without a placeholder stands for itself. -/
theorem Follows.text_eq {c c' : Conversation σ} {target text : String}
    (h : Follows script c c' target text) (hopens : Lint.opensPlaceholder target.toList = false) :
    text = target := by
  cases h with
  | turn => exact Store.expand_of_not_opens _ hopens
  | trigger => rfl

/-- **A target that fails has a placeholder.** -/
theorem Visits.blames (hchecked : script.Checked) {target text : String}
    (h : Visits script moves target text) {fault : Fault} (hfails : script.FailsOn text fault) :
    Blames script moves fault := by
  refine ⟨target, text, h, ?_, hfails⟩
  obtain ⟨hnames, m, -, hfollows⟩ := h
  by_contra hopens
  rw [Bool.not_eq_true] at hopens
  obtain rfl := hfollows.text_eq hopens
  obtain ⟨l, hparse, hstep⟩ := hchecked.errorFree.targets text hnames hopens
  rcases hfails with ⟨hnone, -⟩ | ⟨l', source, hparse', hnone, -⟩
  · cases hparse.symm.trans hnone
  · obtain rfl := Option.some.inj (hparse.symm.trans hparse')
    rw [hnone] at hstep
    cases hstep

/-- When there is no step to move to, a target with a placeholder is to blame. -/
theorem Leads.blames (hchecked : script.Checked) {l : Location} (h : Leads script moves l)
    (hnone : script.document.step? l = none) (source : Option Location) :
    Blames script moves (.navigation source l.text) := by
  rcases h with hstep | ⟨target, text, hvisits, hparse⟩
  · rw [hnone] at hstep
    cases hstep
  · exact hvisits.blames hchecked (.inr ⟨l, source, hparse, hnone, rfl⟩)

/-! ### Turns -/

/-- A turn that is taken up is led as the conversation is. -/
theorem Resumes.ledBy {clock : Nat} {c d : Conversation σ} {turn : Suspended}
    (h : Resumes script clock c turn d) (hc : Guided script moves c) :
    LedBy script moves turn.turn := by
  cases h with
  | @begin location step hphase hcancelled hhead hstep hfall =>
    refine ⟨?_, fun l hl => ?_⟩
    · exact step.drawnFrom_authored.mono fun part => Document.mem_authored_of_step? hstep
    · obtain ⟨-, -, -, hfollowing⟩ := Document.following?_eq_some hl
      exact .inl hfollowing
  | @answer turn deadline text rest hphase hqueue =>
    have hturn := hc.turn turn (Phase.suspended?_of_asking hphase)
    exact ⟨hturn.step, hturn.link⟩
  | wake hphase htime => exact hc.turn turn (Phase.suspended?_of_resting hphase)

/-- What a turn reports that is carried on, and where it leads. -/
structure CarriedOn (script : Script σ) (moves : List (Conversation σ × Conversation σ))
    (fault : Option Fault) (after : Turn) (scene : Scene σ) : Prop where
  led : LedBy script moves after
  tells : ∀ f, .reported f ∈ scene.notices → f.isGuarded = false
  fails : ∀ f, fault = some f → f.isGuarded → Blames script moves f

/-- **A turn goes on as it is led.** -/
theorem Resumes.carriedOn (hchecked : script.Checked) {clock : Nat} {c c' d : Conversation σ}
    {turn : Suspended} (h : Resumes script clock c turn d) (hc : Guided script moves c)
    {progress : Progress} {after : Turn} {scene : Scene σ}
    (hrun : turn.turn.run script.host turn.left { store := d.store, world := d.world } =
      (progress, after, scene))
    (hmove : c' = d.carryOn script clock turn.before turn.left turn.turn) :
    CarriedOn script (moves ++ [(c, c')]) progress.fault? after scene := by
  have hled := h.ledBy hc
  have hinputs := hchecked.errorFree.inputs
  obtain ⟨hdrawn, htells, hlink, hfails⟩ := Turn.run_accounts hled.step hinputs hrun
  have hlast : (c, c') ∈ moves ++ [(c, c')] := List.mem_append_right _ List.mem_cons_self
  -- Whatever the turn goes to is a target that the last move goes to.
  have hvisits : ∀ target store, turn.turn.GoesTo script.host turn.left
      { store := d.store, world := d.world } target store →
      Visits script (moves ++ [(c, c')]) target (store.expand target) := by
    intro target store hgoes
    exact ⟨.inl (hgoes.exists_source hled.step), (c, c'), hlast, .turn h hmove hgoes⟩
  refine ⟨⟨hdrawn, fun l hl => ?_⟩, fun f hf => ?_, fun f hf hguarded => ?_⟩
  · rcases hlink with hsame | ⟨target, store, l', hgoes, hparse, hnew⟩
    · exact (hled.append _).link l (hsame.symm.trans hl)
    · obtain rfl := Option.some.inj (hnew.symm.trans hl)
      exact .inr ⟨target, _, hvisits target store hgoes, hparse⟩
  · rcases htells f hf with hbefore | hlocal
    · simp at hbefore
    · exact hlocal
  · obtain ⟨target, store, hgoes, hparse, rfl⟩ := hfails f hf hguarded
    exact (hvisits target store hgoes).blames hchecked (.inl ⟨hparse, rfl⟩)

/-- A turn that is carried on reports nothing that the rules guard against. -/
theorem CarriedOn.reports {clock : Nat} {c d : Conversation σ} {turn : Suspended}
    {fault : Option Fault} {after : Turn} {scene : Scene σ}
    (hcarried : CarriedOn script moves fault after scene) (h : Resumes script clock c turn d) :
    Reports (fun f => f.isGuarded → Blames script moves f) c (d.absorb script scene) := by
  refine (Reports.of_faults h.faults).trans (.absorb d fun f hf hguarded => ?_)
  rw [hcarried.tells f hf] at hguarded
  cases hguarded

/-- A turn that is over leads to where it stands or to where it is led. -/
theorem LedBy.destination {turn : Turn} (h : LedBy script moves turn)
    (hstep : (script.document.step? turn.location).isSome) {failed : Bool} {l : Location}
    (hl : turn.destination failed = some l) : Leads script moves l := by
  unfold Turn.destination at hl
  split at hl
  · obtain rfl := Option.some.inj hl
    exact .inl hstep
  · exact h.link l hl

/-! ### Moves -/

/-- **What a small step reports** that the rules guard against comes of a target with a
placeholder. -/
theorem Advances.reports (hchecked : script.Checked) {clock : Nat} {c c' : Conversation σ}
    {label : Option Turn} (h : Advances script clock c label c') (hreach : Reachable script c)
    (hc : Guided script moves c) :
    Reports (fun fault => fault.isGuarded → Blames script (moves ++ [(c, c')]) fault) c c' := by
  have hplaced := hreach.placed
  have hlast : (c, c') ∈ moves ++ [(c, c')] := List.mem_append_right _ List.mem_cons_self
  cases h with
  | stop hphase hcancelled => exact .of_faults (faults_endLoop c)
  | wait hphase hcancelled hhead => exact .of_faults (faults_suspend c .waitingInput)
  | @lost location hphase hcancelled hhead hstep =>
    -- The current location has a step, the entry page included.
    exfalso
    have hsome : (script.document.step? location).isSome := by
      rcases hplaced.place with hat | huntouched
      · exact hat.resolves location hhead
      · have hinitial : script.initial = some location := huntouched.head.symm.trans hhead
        rw [Script.eq_entry_of_initial hinitial]
        exact hchecked.entry_isSome
    rw [hstep] at hsome
    cases hsome
  | freefall hphase hcancelled hhead hstep hfall =>
    exact .report { c with freeSteps := 0 } (by cases ·)
  | @enter text rest hphase hqueue =>
    refine Reports.trans (.of_faults (faults_received script { c with queue := rest } text)) ?_
    refine .enter _ fun target htarget fault hfails _ => ?_
    unfold entryTarget? at htarget
    split at htarget
    · obtain ⟨p, hp, rfl⟩ := Option.map_eq_some_iff.1 htarget
      have hnames : script.document.Names p.2 := .inr ⟨p, List.mem_of_find?_eq_some hp, rfl⟩
      have hvisits : Visits script _ p.2 p.2 :=
        ⟨hnames, _, hlast, .trigger hphase hqueue rfl htarget⟩
      exact hvisits.blames hchecked hfails
    · -- Without triggers the entry page is entered, which is there.
      obtain rfl := Option.some.inj htarget
      exfalso
      have hentry := hchecked.entry_isSome
      rcases hfails with ⟨hnone, -⟩ | ⟨l, source, hparse, hnone, -⟩
      · cases hchecked.parse?_entryPage.symm.trans hnone
      · obtain rfl := Option.some.inj (hchecked.parse?_entryPage.symm.trans hparse)
        rw [hnone] at hentry
        cases hentry
  | @idle turn deadline hphase hdeadline =>
    have hturn : c.phase.suspended? = some turn := Phase.suspended?_of_asking hphase
    exact .of_faults (faults_goIdle (hreach.sound.within turn hturn).interrupted
      hchecked.idle_isSome c)
  | @abandon turn hphase hcancelled =>
    exact .of_faults (faults_abandon (hreach.sound.within turn hphase).interrupted c)
  | @complete d turn fault after scene h hrun =>
    have hcarried := h.carriedOn hchecked hc hrun (carryOn_eq clock turn.before hrun).symm
    obtain ⟨hat, hhead⟩ := h.atStep hplaced
    have hstep : (script.document.step? after.location).isSome := by
      rw [Turn.location_of_run hrun]
      exact hat.resolves _ hhead
    refine (hcarried.reports h).trans ?_
    refine .finish hchecked.entry_isSome turn.before (h.within_run hreach.sound hrun).interrupted _
      hcarried.fails fun l hl hnone source _ => ?_
    exact (hcarried.led.destination hstep hl).blames hchecked hnone source
  | @ask d turn left after scene h hrun =>
    have hcarried := h.carriedOn hchecked hc hrun (carryOn_eq clock turn.before hrun).symm
    exact (hcarried.reports h).trans (.of_faults (faults_ask script clock _ _))
  | @rest d turn duration left after scene h hrun =>
    exact (h.carriedOn hchecked hc hrun (carryOn_eq clock turn.before hrun).symm).reports h

/-- **One move** leads a conversation to nothing but steps and targets that it goes to. -/
theorem Moves.guided (hchecked : script.Checked) {c c' : Conversation σ} (h : Moves script c c')
    (hreach : Reachable script c) (hc : Guided script moves c) :
    Guided script (moves ++ [(c, c')]) c' := by
  have hfaults : Reports (fun fault => fault.isGuarded → Blames script (moves ++ [(c, c')]) fault)
      c c' := by
    cases h with
    | loop h => exact h.reports hchecked hreach hc
    | call h => exact .of_faults h.faults
    | write h =>
      obtain ⟨store, rfl⟩ := setVariable_eq h
      exact .of_faults rfl
  refine ⟨fun fault hfault hguarded => ?_, fun waiting hwaiting => ?_⟩
  · rcases hfaults fault hfault with hbefore | hnew
    · exact (hc.faults fault hbefore hguarded).append _
    · exact hnew hguarded
  · cases h with
    | loop h =>
      rcases h.suspended hreach.sound hwaiting with hbefore | ⟨d, turn, _, _, hresumes, hrun, hmove⟩
      · exact (hc.turn waiting hbefore).append _
      · exact (hresumes.carriedOn hchecked hc hrun hmove).led
    | call h => exact (hc.turn waiting (h.suspended hwaiting).1).append _
    | write h =>
      obtain ⟨store, rfl⟩ := setVariable_eq h
      exact (hc.turn waiting hwaiting).append _

/-- **A course** leads a conversation to nothing but steps and targets that it goes to. -/
theorem Course.guided (hchecked : script.Checked) {store : Store} {world : σ} {c : Conversation σ}
    (h : Course script (.ofScript script store world) moves c) : Guided script moves c := by
  induction h with
  | refl => exact ⟨by simp [faults, ofScript], fun turn hturn => by cases hturn⟩
  | move hcourse h ih => exact h.guided hchecked (hcourse.reachable (.initial store world)) ih

/-- **Over a checked document a conversation goes astray only after a target with a placeholder.**
No pattern of an input is found unreadable and no variable of an input is found missing. A target is
found to be no location or no step only if it is the text that a target of the document with a
placeholder was expanded to, when a turn or a trigger went there. -/
theorem checked_faults (hchecked : script.Checked) {store : Store} {world : σ} {c : Conversation σ}
    (h : Course script (.ofScript script store world) moves c) {fault : Fault}
    (hfault : .fault fault ∈ c.events) :
    (∀ location pattern defect, fault ≠ .invalidPattern location pattern defect) ∧
    (∀ location, fault ≠ .missingProperty "variable" location) ∧
    (∀ source target, fault = .navigation source target → Blames script moves fault) ∧
    ∀ text, fault = .invalidLocation text → Blames script moves fault := by
  have hblames : fault.isGuarded → Blames script moves fault :=
    (h.guided hchecked).faults fault (mem_faults.2 hfault)
  refine ⟨?_, ?_, ?_, ?_⟩
  · rintro location pattern defect rfl
    obtain ⟨target, text, -, -, ⟨-, heq⟩ | ⟨l, source, -, -, heq⟩⟩ := hblames rfl <;> cases heq
  · rintro location rfl
    obtain ⟨target, text, -, -, ⟨-, heq⟩ | ⟨l, source, -, -, heq⟩⟩ := hblames rfl <;> cases heq
  · rintro source target rfl
    exact hblames rfl
  · rintro text rfl
    exact hblames rfl

/-- A document whose only step leads to a page that a variable names. -/
def lobby : Script Unit where
  document := { pages := [("/start", [{ next := some "/{{room}}" }])] }
  settings := {}
  host := ⟨[], fun _ world => (.error "offline", world)⟩

/-- The conversation once it is started, without variables. -/
def inLobby : Conversation Unit :=
  { (ofScript lobby .empty ()).setStatus .busy with phase := .ready }

theorem checked_lobby : lobby.Checked where
  issues issue hissue := by
    have hnone : lobby.document.issues = [] := by decide
    rw [hnone] at hissue
    cases hissue
  entry := ⟨_, _, rfl⟩
  named := by decide
  plain := by decide
  idle hempty := by
    have hnone : lobby.document.page? lobby.settings.idlePage = none := by decide
    rw [hnone] at hempty
    cases hempty

/-- No variable names the room: the conversation goes astray, and the target is to blame. -/
theorem checked_faults_lobby :
    ∃ moves, Course lobby (.ofScript lobby .empty ()) moves (settleFrom lobby 0 1 inLobby) ∧
      lobby.Checked ∧
      .fault (.navigation lobby.entry "/{{room}}[0]") ∈ (settleFrom lobby 0 1 inLobby).events ∧
      Blames lobby moves (.navigation lobby.entry "/{{room}}[0]") := by
  have hstarted : Course lobby (.ofScript lobby .empty ())
      [(.ofScript lobby .empty (), inLobby)] inLobby := .move .refl (.call (.start rfl))
  obtain ⟨moves, hcourse⟩ := hstarted.settleFrom 0 1
  have hfaults : (settleFrom lobby 0 1 inLobby).faults = [.navigation lobby.entry "/{{room}}[0]"] :=
    by decide +kernel
  have hfault := mem_faults.1 (hfaults ▸ List.mem_singleton_self _)
  obtain ⟨-, -, hnavigation, -⟩ := checked_faults checked_lobby hcourse hfault
  exact ⟨moves, hcourse, checked_lobby, hfault, hnavigation _ _ rfl⟩

end Conversation

end Dialogue
