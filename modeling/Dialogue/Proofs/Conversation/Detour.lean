import Dialogue.Proofs.Conversation.Variables
import Dialogue.Proofs.Document.Codec
import Dialogue.Proofs.Turn.Asking
/-!
# The way back from a detour

A detour to the idle page writes down the location that it leaves, as a text that denotes it again
and that no placeholder inside is looked for in. While nothing else writes there, a step that goes to
the written location leads to where the user was idle last. When the user is idle on the idle page
itself, that is a location of the idle page.

## Main definitions

- `returnTarget` — the target that leads back
- `Store.Remembers` — the variables hold where a detour leads back to
- `Turn.Returns` — a turn leads back if its step goes to `returnTarget`
- `Script.Remembering` — the documents that leave the written location alone
- `Conversation.Recalls` — what holds of every state

## Main statements

- `Store.remembers_detour`, `Store.Remembers.set`, `Store.Remembers.expand`
- `Turn.returns_run`, `Turn.returns_run_standard` — a row of directives
- `Conversation.Advances.recalls` — a small step
- `Conversation.detour_returns` — where a step leads that goes to `returnTarget`
-/

namespace Dialogue

open Conversation

variable {σ : Type} {script : Script σ} {clock : Nat}

/-- The target that leads back from a detour. -/
def returnTarget : String := "{{_continue}}"

/-! ### The written location -/

namespace Template

theorem placeholder?_returnTarget :
    placeholder? returnTarget.toList = some (returnVariable.toList, []) := by
  decide +kernel

/-- The target is one placeholder. -/
theorem pieces_returnTarget :
    pieces returnTarget.toList = [.placeholder returnVariable.toList] := by
  have h := placeholder?_returnTarget
  rw [show returnTarget.toList = '{' :: returnTarget.toList.tail from rfl] at h ⊢
  rw [pieces]
  split
  · next path after heq =>
    rw [h] at heq
    obtain ⟨rfl, rfl⟩ := Prod.mk.inj (Option.some.inj heq)
    rw [pieces]
  · next hnone =>
    rw [h] at hnone
    cases hnone

end Template

namespace Path

theorem parse_returnVariable : parse returnVariable = [.key returnVariable] := by decide

/-- A path that leads into another variable. -/
def Avoids (name : String) (p : Path) : Prop := ∃ s rest, p = s :: rest ∧ s.name ≠ name

end Path

namespace Store

/-- The variables hold where a detour leads back to. -/
def Remembers (store : Store) (l : Location) : Prop :=
  ∃ fields, store.own = .object fields ∧ Keyed.get? returnVariable fields = some (.text l.text)

variable {store : Store} {l : Location}

/-- A detour writes down where it leads back to, whatever the variables are. -/
theorem remembers_detour (store : Store) (l : Location) :
    (store.set returnVariable (.text l.text)).Remembers l := by
  obtain ⟨own, shared⟩ := store
  rw [set, set?, Path.parse_returnVariable]
  cases own with
  | object fields => exact ⟨_, rfl, Keyed.get?_insert_self _ _ _⟩
  | array items => exact ⟨_, rfl, rfl⟩
  | _ => exact ⟨_, rfl, rfl⟩

/-- A write to another variable leaves the written location alone. -/
theorem Remembers.set (h : store.Remembers l) {path : String}
    (hpath : (Path.parse path).Avoids returnVariable) (value : Json) :
    (Store.set store path value).Remembers l := by
  obtain ⟨fields, hfields, hget⟩ := h
  obtain ⟨s, rest, hparse, hname⟩ := hpath
  rw [Store.set, set?, hparse]
  split
  · exact ⟨fields, hfields, hget⟩
  · refine ⟨_, congrArg (Json.put · (s :: rest) value) hfields, ?_⟩
    rw [Keyed.get?_insert_of_ne (Ne.symm hname)]
    exact hget

/-- The target that leads back stands for the written location. -/
theorem Remembers.expand (h : store.Remembers l) : store.expand returnTarget = l.text := by
  obtain ⟨fields, hfields, hget⟩ := h
  have hvalue : store.get? returnVariable = some (.text l.text) := by
    rw [get?, Path.parse_returnVariable, at?, hfields]
    simp [Json.get?_cons, Json.child?, Segment.name, hget]
  rw [Store.expand, Template.pieces_returnTarget]
  simp [Template.Piece.render, hvalue, Json.plainChars]

end Store

/-! ### Turns -/

namespace Turn

/-- The turn leads to where another target of its step does. -/
def LedElsewhere (turn : Turn) : Prop :=
  ∃ named ∈ turn.step.targets, named.2 ≠ returnTarget ∧ ∃ store m,
    Location.parse? (Store.expand store named.2) = some m ∧ turn.nextLink = some m

/-- The turn leads back if its step goes to `returnTarget`, unless another target of the step has led
it elsewhere. -/
def Returns (l : Location) (turn : Turn) : Prop :=
  turn.step.next = some returnTarget → turn.nextLink = some l ∨ turn.LedElsewhere

variable {host : Host σ} {sources : List Step} {turn : Turn} {scene : Scene σ} {l : Location}

/-- Any directive but a branch. -/
theorem returns_directive (hl : Location.parse? l.text = some l) {directive : Directive}
    (hswitch : directive ≠ .switch) (hstore : scene.store.Remembers l) (h : turn.Returns l) :
    (directive.run host turn scene).2.1.Returns l := by
  obtain ⟨hstep, -, hlink⟩ := Directive.run_effect host turn scene hswitch
  intro hnext
  rw [hstep] at hnext
  rcases hlink with hsame | ⟨named, hnamed, m, hparse, hlink⟩
  · rw [hsame, LedElsewhere, hstep, hsame]
    exact h hnext
  · by_cases hback : named.2 = returnTarget
    · rw [hback, hstore.expand, hl] at hparse
      exact .inl (hlink.trans hparse.symm)
    · exact .inr ⟨named, hstep ▸ hnamed, hback, scene.store, m, hparse, hlink⟩

/-- **A row of directives** past the branch keeps the way back. -/
theorem returns_run (hl : Location.parse? l.text = some l)
    (hkept : Store.KeptBy sources (Store.Remembers · l)) {left : List Directive}
    (hswitch : .switch ∉ left) (hstep : turn.step.DrawnFrom sources)
    (hstore : scene.store.Remembers l) (h : turn.Returns l) :
    (turn.run host left scene).2.1.Returns l := by
  induction left generalizing turn scene with
  | nil => exact h
  | cons directive rest ih =>
    obtain ⟨hne, hrest⟩ := List.ne_and_not_mem_of_not_mem_cons hswitch
    have hstep' : (directive.run host turn scene).2.1.step.DrawnFrom sources :=
      Directive.drawnFrom_run hstep
    have hstore' := hkept.run_directive host hstep hstore directive
    have hreturns : (directive.run host turn scene).2.1.Returns l :=
      returns_directive hl (Ne.symm hne) hstore h
    rw [run]
    split <;> rename_i hrun <;> rw [hrun] at hstep' hstore' hreturns
    · exact ih hrest hstep' hstore' hreturns
    all_goals exact hreturns

/-- **All directives in their usual order** find the way back: what stands before the target writes
nothing down. -/
theorem returns_run_standard (hl : Location.parse? l.text = some l)
    (hkept : Store.KeptBy sources (Store.Remembers · l)) (hstep : turn.step.DrawnFrom sources)
    (hstore : scene.store.Remembers l) :
    (turn.run host Directive.standard scene).2.1.Returns l := by
  generalize hbranched : { turn with step := Directive.branched scene.store turn.step } = first
  have hfirst : first.step.DrawnFrom sources := by
    rw [← hbranched]
    exact Directive.drawnFrom_branched hstep scene.store
  have hswitch : Directive.run host .switch turn scene = (.proceed, first, scene) := by
    rw [← hbranched]
    rfl
  obtain ⟨cleared, hclear, -⟩ := Directive.run_clear host scene first
  have hcleared := hkept.run_directive host hfirst hstore .clear
  rw [hclear] at hcleared
  obtain ⟨said, hmessage, -⟩ := Directive.run_message host cleared first
  have hsaid := hkept.run_directive host hfirst hcleared .message
  rw [hmessage] at hsaid
  rw [Directive.standard, run_cons_of_proceed hswitch, run_cons_of_proceed hclear,
    run_cons_of_proceed hmessage]
  -- The target is the first directive that can set a link, so it finds none from before.
  by_cases hnext : first.step.next = some returnTarget
  · have hgo : Directive.run host .next first said =
        (.proceed, { first with nextLink := some l }, said) := by
      rw [Directive.run, hnext]
      dsimp only
      rw [Directive.goTo, Directive.resolve, hsaid.expand, Location.read, hl]
      rfl
    rw [run_cons_of_proceed hgo]
    exact returns_run hl hkept (by decide) hfirst hsaid fun _ => .inl rfl
  · exact returns_run hl hkept (by decide) hfirst hsaid fun hsome => absurd hsome hnext

/-- Whatever is left of the directives, the branch is taken. -/
theorem not_mem_left_run_standard (host : Host σ) (turn : Turn) (scene : Scene σ) :
    .switch ∉ (turn.run host Directive.standard scene).1.left := by
  have hswitch : Directive.run host .switch turn scene =
      (.proceed, { turn with step := Directive.branched scene.store turn.step }, scene) := rfl
  rw [Directive.standard, run_cons_of_proceed hswitch]
  exact fun hmem => absurd ((left_run_suffix host _ _ scene).subset hmem) (by decide)

end Turn

/-! ### Documents -/

/-- A loaded document whose authored steps neither write where a detour leads back to nor drop all
variables, with the directives in their usual order and a host that writes other variables. -/
structure Script.Remembering (script : Script σ) (writes : String → Prop) : Prop where
  loaded : ∃ j, Document.ofJson j = .ok script.document
  /-- The indices of the steps can be counted. -/
  counted : ∀ p ∈ script.document.pages, p.2.length < indexBound
  directives : script.directives = Directive.standard
  stores : ∀ step ∈ script.document.authored, ∀ path ∈ step.outputs,
    (Path.parse path).Avoids returnVariable
  clears : ∀ step ∈ script.document.authored, step.clearVariables ≠ some true
  host : ∀ path, writes path → (Path.parse path).Avoids returnVariable

namespace Script.Remembering

variable {writes : String → Prop}

theorem keptBy (h : script.Remembering writes) (l : Location) :
    Store.KeptBy script.document.authored (Store.Remembers · l) where
  set step hstep path hpath _ value hstore := hstore.set (h.stores step hstep path hpath) value
  clear step hstep hclear := absurd hclear (h.clears step hstep)

/-- The location of a step is read as it is written. -/
theorem parse?_text (h : script.Remembering writes) {l : Location}
    (hstep : (script.document.step? l).isSome) : Location.parse? l.text = some l := by
  obtain ⟨j, hload⟩ := h.loaded
  obtain ⟨steps, hpage, hlt⟩ := Document.index_lt_of_step? hstep
  have hmem : (l.page, steps) ∈ script.document.pages := Keyed.mem_of_get? hpage
  refine Location.parse?_text ?_ (Nat.lt_trans hlt (h.counted _ hmem))
  rintro hempty
  have hid := (Document.wellFormed_of_ofJson hload).isPageId _ hmem
  rw [hempty] at hid
  cases hid

end Script.Remembering

namespace Conversation

variable {c c' : Conversation σ} {writes : String → Prop}

/-- Every detour was at a step; the variables hold where the last one leads back to, and the turn
that waits leads there. -/
structure Recalls (script : Script σ) (c : Conversation σ) : Prop where
  left : ∀ waiting, c.phase.suspended? = some waiting → .switch ∉ waiting.left
  known : ∀ l ∈ c.detours, (script.document.step? l).isSome
  remembers : ∀ l, c.detours.getLast? = some l → c.store.Remembers l
  returns : ∀ l, c.detours.getLast? = some l → ∀ waiting, c.phase.suspended? = some waiting →
    waiting.turn.Returns l

/-- **A turn that is carried on after a detour leads back.** -/
theorem Resumes.returns (hscript : script.Remembering writes) {d : Conversation σ}
    {turn : Suspended} (h : Resumes script clock c turn d) (hreach : Reachable script c)
    (hc : Recalls script c) {l : Location} (hlast : c.detours.getLast? = some l)
    {progress : Progress} {after : Turn} {scene : Scene σ}
    (hrun : turn.turn.run script.host turn.left { store := c.store, world := d.world } =
      (progress, after, scene)) : after.Returns l := by
  have hl := hscript.parse?_text (hc.known l (List.mem_of_getLast? hlast))
  have hkept := hscript.keptBy l
  have hdrawn := h.drawnFrom fun _ => hreach.drawnFrom
  have hstore := hc.remembers l hlast
  suffices hreturns : (turn.turn.run script.host turn.left
      { store := c.store, world := d.world }).2.1.Returns l by rwa [hrun] at hreturns
  cases h with
  | begin hphase hcancelled hhead hstep hfall =>
    rw [opening, hscript.directives]
    exact Turn.returns_run_standard hl hkept hdrawn hstore
  | @answer turn deadline text rest hphase hqueue =>
    have hturn : c.phase.suspended? = some turn := Phase.suspended?_of_asking hphase
    exact Turn.returns_run hl hkept (hc.left turn hturn) hdrawn hstore (hc.returns l hlast turn hturn)
  | wake hphase htime =>
    have hturn : c.phase.suspended? = some turn := Phase.suspended?_of_resting hphase
    exact Turn.returns_run hl hkept (hc.left turn hturn) hdrawn hstore (hc.returns l hlast turn hturn)

/-- What is left of a turn that is carried on takes no branch. -/
theorem Resumes.not_mem_left (hscript : script.Remembering writes) {d : Conversation σ}
    {turn : Suspended} (h : Resumes script clock c turn d) (hc : Recalls script c)
    {progress : Progress} {after : Turn} {scene scene' : Scene σ}
    (hrun : turn.turn.run script.host turn.left scene = (progress, after, scene')) :
    .switch ∉ progress.left := by
  have hsuffix := (Turn.left_run_suffix script.host turn.left turn.turn scene).subset
  suffices hleft : .switch ∉ (turn.turn.run script.host turn.left scene).1.left by
    rwa [hrun] at hleft
  cases h with
  | begin hphase hcancelled hhead hstep hfall =>
    rw [opening, hscript.directives]
    exact Turn.not_mem_left_run_standard script.host _ scene
  | @answer turn deadline text rest hphase hqueue =>
    exact fun hmem => hc.left turn (Phase.suspended?_of_asking hphase) (hsuffix hmem)
  | wake hphase htime =>
    exact fun hmem => hc.left turn (Phase.suspended?_of_resting hphase) (hsuffix hmem)

/-- **A small step** keeps the way back. -/
theorem Advances.recalls (hscript : script.Remembering writes) {label : Option Turn}
    (h : Advances script clock c label c') (hreach : Reachable script c) (hc : Recalls script c) :
    Recalls script c' := by
  cases h.handles hreach.sound with
  | keeps hstore hdetours hturn =>
    refine ⟨fun t ht => hc.left t (hturn t ht), hdetours ▸ hc.known, ?_, ?_⟩
    · rw [hdetours, hstore]
      exact hc.remembers
    · rw [hdetours]
      exact fun l hl t ht => hc.returns l hl t (hturn t ht)
  | @detours turn hphase hstore hdetours hfree =>
    have hnone : ∀ waiting, c'.phase.suspended? ≠ some waiting := by
      rw [hfree]
      exact fun waiting h => by cases h
    refine ⟨fun t ht => absurd ht (hnone t), fun l hl => ?_, fun l hl => ?_,
      fun l hl t ht => absurd ht (hnone t)⟩
    · rw [hdetours] at hl
      rcases List.mem_append.1 hl with hl | hl
      · exact hc.known l hl
      · obtain rfl := List.mem_singleton.1 hl
        exact (hreach.placed.atStep_of_suspended hphase).resolves _ (hreach.placed.turn turn hphase)
    · rw [hdetours, List.getLast?_concat] at hl
      obtain rfl := Option.some.inj hl
      rw [hstore]
      exact Store.remembers_detour c.store turn.turn.location
  | @carries turn d progress after scene hresumes hrun hstore hdetours hturn =>
    refine ⟨fun t ht => ?_, hdetours ▸ hc.known, fun l hl => ?_, fun l hl t ht => ?_⟩
    · rw [hturn t ht]
      exact hresumes.not_mem_left hscript hc hrun
    · have hdrawn := hresumes.drawnFrom fun _ => hreach.drawnFrom
      rw [hstore]
      exact (hscript.keptBy l).run hdrawn (hc.remembers l (hdetours ▸ hl)) hrun
    · rw [hturn t ht]
      exact hresumes.returns hscript hreach hc (hdetours ▸ hl) hrun

/-- **Every state** of a conversation has the way back. -/
theorem Proceeds.recalls (hscript : script.Remembering writes) {store : Store} {world : σ}
    (h : Proceeds script writes (.ofScript script store world) c) : Recalls script c := by
  have hfirst : Reachable script (.ofScript script store world) := .initial store world
  induction h with
  | refl =>
    refine ⟨fun t ht => (by cases ht), fun l hl => (by cases hl), fun l hl => ?_,
      fun l _ t ht => (by cases ht)⟩
    cases hl
  | loop hc h ih => exact h.recalls hscript (hc.reachable hfirst) ih
  | call hc h ih =>
    obtain ⟨hturn, hstore, news, hevents, hmute⟩ := h.keeps (hc.reachable hfirst).sound
    have hdetours := detours_of_quiet hevents (Event.quiet_of_mute hmute)
    refine ⟨hturn ▸ ih.left, hdetours ▸ ih.known, ?_, ?_⟩
    · rw [hdetours, hstore]
      exact ih.remembers
    · rw [hdetours, hturn]
      exact ih.returns
  | write hc hpath h ih =>
    rw [setVariable_store h]
    exact ⟨ih.left, ih.known, fun l hl => (ih.remembers l hl).set (hscript.host _ hpath) _, ih.returns⟩

/-- The detours from steps outside the idle page. -/
def outerDetours (script : Script σ) (c : Conversation σ) : List Location :=
  c.detours.filter fun l => l.page != script.settings.idlePage

/-- **The way back.** Where a step completes whose target is `returnTarget`, the conversation is
where the user was idle last, unless the answer was not taken or another target of the step has led
elsewhere. That is where the user was idle last outside the idle page exactly if it is outside the
idle page: a detour from the idle page hides the one that led there. -/
theorem detour_returns (hscript : script.Remembering writes) {store : Store} {world : σ}
    {l : Location} {turn : Turn} (hc : Proceeds script writes (.ofScript script store world) c)
    (hlast : c.detours.getLast? = some l) (h : Advances script clock c (some turn) c')
    (hnext : turn.step.next = some returnTarget) :
    (c'.head = some l ∨ turn.inputStatus = .rejected ∨ turn.LedElsewhere) ∧
      ((c.outerDetours script).getLast? = some l ↔ l.page ≠ script.settings.idlePage) := by
  have hreach : Reachable script c := hc.reachable (.initial store world)
  have hrecalls := hc.recalls hscript
  constructor
  · cases h with
    | @complete d suspended fault after scene hresumes hrun =>
      have hinterrupted : turn.interrupted = none :=
        (hresumes.within_run hreach.sound hrun).interrupted
      have hhead : ((d.absorb script scene).finish script suspended.before turn fault).head =
          script.arrival (turn.destination fault.isSome) :=
        (finish_arrival hinterrupted suspended.before fault _).1
      by_cases hrejected : turn.inputStatus = .rejected
      · exact .inr (.inl hrejected)
      · rcases hresumes.returns hscript hreach hrecalls hlast (hresumes.same.1 ▸ hrun) hnext with
          hlink | helsewhere
        · left
          have hdestination : turn.destination fault.isSome = some l := by
            rw [Turn.destination, if_neg (by simp [Turn.isRejected, hrejected]), hlink]
          have hstep := hrecalls.known l (List.mem_of_getLast? hlast)
          rw [hhead, hdestination, Script.arrival, Script.landing, if_pos hstep]
        · exact .inr (.inr helsewhere)
  · obtain ⟨earlier, hdetours⟩ := List.getLast?_eq_some_iff.1 hlast
    rw [outerDetours, hdetours, List.filter_append]
    by_cases hpage : l.page = script.settings.idlePage
    · refine iff_of_false (fun hsome => ?_) (not_not_intro hpage)
      have hmem := List.mem_of_getLast? hsome
      simp [hpage] at hmem
    · simp [hpage]

/-- A page whose id looks like an index and a placeholder, and an idle page that leads back. -/
def waitingRoomPages : Json := .object [
  ("/on-idle", .object [("next", .text "{{_continue}}")]),
  ("/room[1]{{x}}", .object [("links", .object [("go", .text "/on-idle")])])]

/-- The document with both pages. -/
def waitingRoomDocument : Document where
  pages := [("/on-idle", [{ next := some returnTarget }]),
    ("/room[1]{{x}}", [{ links := some [("go", "/on-idle")] }])]

/-- The script in which the user is idle after ten seconds. -/
def waitingRoom : Script Unit where
  document := waitingRoomDocument
  settings := { entryPage := "/room[1]{{x}}", idleAfterSeconds := some (Binary64.ofInt 10) }
  host := ⟨[], fun _ world => (.error "offline", world)⟩

/-- The conversation once the user was idle for ten seconds. -/
def idled : Conversation Unit :=
  settleFrom waitingRoom 10000 1
    (settleFrom waitingRoom 0 1
      { (ofScript waitingRoom .empty ()).setStatus .busy with phase := .ready })

theorem remembering_waitingRoom : waitingRoom.Remembering fun _ => False where
  loaded := ⟨waitingRoomPages, by rfl⟩
  counted := by decide
  directives := rfl
  stores := by
    intro step hstep path hpath
    have hnone : ∀ step ∈ waitingRoom.document.authored, step.outputs = [] := by decide
    rw [hnone step hstep] at hpath
    cases hpath
  clears := by decide
  host := fun _ h => h.elim

/-- What the step of the idle page gives. -/
def leadingBack : Progress × Turn × Scene Unit :=
  (Turn.ofStep { next := some returnTarget } waitingRoom.idle none).run waitingRoom.host
    waitingRoom.directives { store := idled.store, world := idled.world }

theorem detour_returns_idled :
    idled.detours = [⟨"/room[1]{{x}}", 0⟩] ∧ idled.head = some waitingRoom.idle ∧
      ∃ turn c', Advances waitingRoom 10000 idled (some turn) c' ∧
        c'.head = some ⟨"/room[1]{{x}}", 0⟩ := by
  have hidled : Proceeds waitingRoom (fun _ => False) (.ofScript waitingRoom .empty ()) idled :=
    ((Proceeds.call .refl (.start rfl)).settleFrom 0 1).settleFrom 10000 1
  have hlast : idled.detours.getLast? = some ⟨"/room[1]{{x}}", 0⟩ := by rfl
  have hdone : leadingBack.1 = .done none := by decide +kernel
  have hrun : leadingBack = (.done none, leadingBack.2.1, leadingBack.2.2) := Prod.ext hdone rfl
  obtain ⟨c', hadvance⟩ : ∃ c', Advances waitingRoom 10000 idled (some leadingBack.2.1) c' :=
    ⟨_, .complete (.begin rfl rfl rfl rfl rfl) hrun⟩
  have hnext : leadingBack.2.1.step.next = some returnTarget := by decide +kernel
  obtain ⟨hback | hrejected | ⟨named, hnamed, hother, -⟩, -⟩ :=
    detour_returns remembering_waitingRoom hidled hlast hadvance hnext
  · exact ⟨rfl, rfl, _, c', hadvance, hback⟩
  · have hnone : leadingBack.2.1.inputStatus = .none := by decide +kernel
    cases hnone.symm.trans hrejected
  · have hall : ∀ named ∈ leadingBack.2.1.step.targets, named.2 = returnTarget := by
      decide +kernel
    exact absurd (hall named hnamed) hother

end Conversation

end Dialogue
