import Dialogue.Proofs.Turn.Storing
/-!
# Where a turn leads

A directive leaves where its turn leads alone, or goes to a target that the step names. The step that
runs is put together from authored steps, so each of these targets is one that an author wrote. What
else may go wrong in a turn is a matter of its inputs, its delay and the outside.

## Main definitions

- `Fault.isGuarded` — the faults that the rules for documents guard against
- `Directive.Leads` — what a directive does with where its turn leads
- `Turn.GoesTo` — while a row of directives runs, one of them goes to a target
- `Turn.Accounts` — where a row of directives leads, and what it reports

## Main statements

- `Directive.run_leads`, `Turn.run_accounts` — one directive, and a row of them
- `Turn.GoesTo.exists_source` — whose target it is
-/

namespace Dialogue

variable {σ : Type}

/-- Whether the rules for documents guard against the fault. -/
def Fault.isGuarded : Fault → Bool
  | .navigation _ _ => true
  | .invalidLocation _ => true
  | .invalidPattern _ _ _ => true
  | .missingProperty property _ => property == "variable"
  | _ => false

/-- Every fault that is new in a scene is one that the rules do not guard against. -/
def Scene.TellsOf (scene scene' : Scene σ) : Prop :=
  ∀ fault, .reported fault ∈ scene'.notices →
    .reported fault ∈ scene.notices ∨ fault.isGuarded = false

namespace Scene

variable {scene scene' scene'' : Scene σ}

theorem TellsOf.refl (h : scene'.notices = scene.notices) : scene.TellsOf scene' := by
  intro fault hfault
  rw [h] at hfault
  exact .inl hfault

theorem TellsOf.trans (h : scene.TellsOf scene') (h' : scene'.TellsOf scene'') :
    scene.TellsOf scene'' := by
  intro fault hfault
  rcases h' fault hfault with hfault | hfault
  · exact h fault hfault
  · exact .inr hfault

theorem TellsOf.report (h : scene.TellsOf scene') {fault : Fault} (hfault : fault.isGuarded = false) :
    scene.TellsOf (scene'.report fault) := by
  intro other hother
  rcases Array.mem_push.1 hother with hother | hother
  · exact h other hother
  · obtain rfl := Notice.reported.inj hother
    exact .inr hfault

theorem TellsOf.print (text : String) : scene.TellsOf (scene.print text) := by
  intro fault hfault
  rcases Array.mem_push.1 hfault with hfault | hfault
  · exact .inl hfault
  · cases hfault

end Scene

namespace Directive

/-- What a directive does with where its turn leads: nothing, or it goes to a target of the step. -/
structure Leads (turn : Turn) (scene : Scene σ) (r : Result σ) : Prop where
  tells : scene.TellsOf r.2.2
  goes : (r.2.1.nextLink = turn.nextLink ∧ ∀ fault, r.1 = .fail fault → fault.isGuarded = false) ∨
    ∃ named ∈ turn.step.targets, ∃ scene' : Scene σ, scene'.store = scene.store ∧
      r = goTo named.2 turn scene'

variable {turn : Turn} {scene scene' : Scene σ}

/-- Going to a target reads what it expands to. -/
theorem goTo_eq (target : String) (turn : Turn) (scene : Scene σ) :
    goTo target turn scene =
      match Location.parse? (scene.store.expand target) with
      | some l => proceed { turn with nextLink := some l } scene
      | none => fail (.invalidLocation (scene.store.expand target)) turn scene := by
  rw [goTo, resolve, Location.read]
  cases Location.parse? (scene.store.expand target) <;> rfl

theorem leads_proceed {turn' : Turn} (hlink : turn'.nextLink = turn.nextLink)
    (htells : scene.TellsOf scene') : Leads turn scene (proceed turn' scene') :=
  ⟨htells, .inl ⟨hlink, fun _ h => by cases h⟩⟩

theorem leads_fail {fault : Fault} (h : fault.isGuarded = false) :
    Leads turn scene (fail fault turn scene) := by
  refine ⟨.refl rfl, .inl ⟨rfl, fun other hother => ?_⟩⟩
  obtain rfl := Signal.fail.inj hother
  exact h

theorem leads_goTo {kind target : String} (hnamed : (kind, target) ∈ turn.step.targets)
    (hstore : scene'.store = scene.store) (htells : scene.TellsOf scene') :
    Leads turn scene (goTo target turn scene') := by
  refine ⟨?_, .inr ⟨(kind, target), hnamed, scene', hstore, rfl⟩⟩
  unfold goTo
  split <;> exact htells

theorem leads_withInput {use : String → Result σ}
    (h : ∀ text, turn.reply = .text text → Leads turn scene (use text)) :
    Leads turn scene (withInput turn scene use) :=
  withInput_cases h ⟨.refl rfl, .inl ⟨rfl, fun _ h => by cases h⟩⟩
    ⟨.refl rfl, .inl ⟨rfl, fun _ h => by cases h⟩⟩

/-- Storing a value tells nothing. -/
theorem tellsOf_storeAt (htells : scene.TellsOf scene') (path : Option String) (value : Json) :
    scene.TellsOf (storeAt path value scene') := by
  unfold storeAt
  split
  · exact htells.trans (.refl rfl)
  · exact htells

/-- A pattern that the rules find nothing in can be read. -/
theorem inputPattern_of_checked {input : Input} (h : input.Checked) (hkind : input.kind = .text)
    (location : Location) (fault : Fault) : inputPattern input location ≠ .error fault := by
  unfold inputPattern
  cases hsource : input.pattern with
  | none => exact (by cases ·)
  | some pattern =>
    obtain ⟨regex, hcompile⟩ := h.pattern hkind pattern hsource
    simp [hcompile]

/-- **What becomes of where a turn leads**, whatever a directive does but take a branch, when the rules
find nothing in the input of the step. -/
theorem Does.leads {host : Host σ} {directive : Directive} {r : Result σ}
    (h : Does host turn scene directive r) (hswitch : directive ≠ .switch)
    (hchecked : ∀ input, turn.step.input = some input → input.Checked) : Leads turn scene r := by
  have htells (world : σ) : scene.TellsOf { scene with world } := .refl rfl
  cases h with
  | switch => exact absurd rfl hswitch
  | message => exact leads_proceed rfl (.print _)
  | next htarget => exact leads_goTo (Step.mem_targets_of_next htarget) rfl (.refl rfl)
  | @unnamed input hinput hpath =>
    have hnamed := (hchecked input hinput).variablePath
    cases hvariable : input.variablePath <;> simp [hvariable] at hpath hnamed
    exact absurd hpath hnamed
  | unlisted | uncountable => exact leads_fail rfl
  | @unreadable input fault hinput hkind hpattern =>
    exact absurd hpattern (inputPattern_of_checked (hchecked input hinput) hkind _ _)
  | choice | text =>
    refine leads_withInput fun text _ => ?_
    split <;> exact leads_proceed rfl (.refl rfl)
  | links htargets =>
    refine leads_withInput fun text _ => ?_
    split
    · next target htarget =>
      exact leads_goTo (Step.mem_targets_of_links htargets htarget) rfl (.refl rfl)
    · exact leads_proceed rfl (.refl rfl)
  | unknown | unsent => exact leads_proceed rfl ((Scene.TellsOf.refl rfl).report rfl)
  | returned | responded => exact leads_proceed rfl (tellsOf_storeAt (htells _) _ _)
  | broken | failed => exact leads_proceed rfl ((htells _).report rfl)
  | diverted hfetch _ _ hnext =>
    exact leads_goTo (Step.mem_targets_of_request hfetch hnext) rfl ((htells _).report rfl)
  | rest => exact ⟨.refl rfl, .inl ⟨rfl, fun _ h => by cases h⟩⟩
  | _ => exact leads_proceed rfl (.refl rfl)

/-- **What a directive does with where its turn leads**, when the rules find nothing in the input of
the step. -/
theorem run_leads (host : Host σ) {directive : Directive} (hswitch : directive ≠ .switch)
    (hinput : ∀ input, turn.step.input = some input → input.Checked) :
    Leads turn scene (directive.run host turn scene) :=
  (run_does host directive turn scene).leads hswitch hinput

end Directive

/-- The fault that a directive fails with. -/
def Signal.fault? : Signal → Option Fault
  | .fail fault => some fault
  | _ => none

/-- The fault that a row of directives fails with. -/
def Progress.fault? : Progress → Option Fault
  | .done fault => fault
  | _ => none

namespace Turn

variable {host : Host σ}

/-- While a row of directives runs, one of them goes to a target of the step, which is expanded over
the store. -/
inductive GoesTo (host : Host σ) :
    List Directive → Turn → Scene σ → String → Store → Prop where
  | here {directive : Directive} {rest : List Directive} {turn : Turn} {scene scene' : Scene σ}
      {named : String × String} (hnamed : named ∈ turn.step.targets)
      (hstore : scene'.store = scene.store)
      (h : directive.run host turn scene = Directive.goTo named.2 turn scene') :
      GoesTo host (directive :: rest) turn scene named.2 scene.store
  | later {directive : Directive} {rest : List Directive} {turn turn' : Turn}
      {scene scene' : Scene σ} {target : String} {store : Store}
      (h : directive.run host turn scene = (.proceed, turn', scene'))
      (hrest : GoesTo host rest turn' scene' target store) :
      GoesTo host (directive :: rest) turn scene target store

/-- What has become of a turn: what it reports, where it leads, and what it fails with. -/
structure Accounts (host : Host σ) (left : List Directive) (turn : Turn) (scene : Scene σ)
    (after : Turn) (scene' : Scene σ) (fault : Option Fault) : Prop where
  tells : scene.TellsOf scene'
  link : after.nextLink = turn.nextLink ∨ ∃ target store l, GoesTo host left turn scene target store ∧
    Location.parse? (store.expand target) = some l ∧ after.nextLink = some l
  fails : ∀ f, fault = some f → f.isGuarded → ∃ target store,
    GoesTo host left turn scene target store ∧ Location.parse? (store.expand target) = none ∧
      f = .invalidLocation (store.expand target)

variable {sources : List Step} {directive : Directive} {rest : List Directive}
  {turn turn' after : Turn} {scene scene' scene'' : Scene σ}

/-- The inputs of steps that draw on the sources are inputs of the sources. -/
theorem checked_of_drawnFrom (hstep : turn.step.DrawnFrom sources)
    (hinputs : ∀ source ∈ sources, ∀ input, source.input = some input → input.Checked) :
    ∀ input, turn.step.input = some input → input.Checked := by
  intro input hinput
  obtain ⟨source, hsource, hsame⟩ := hstep.input input hinput
  exact hinputs source hsource input hsame

/-- One directive. -/
theorem accounts_directive (rest : List Directive) (hstep : turn.step.DrawnFrom sources)
    (hinputs : ∀ source ∈ sources, ∀ input, source.input = some input → input.Checked)
    {signal : Signal} (h : directive.run host turn scene = (signal, after, scene')) :
    Accounts host (directive :: rest) turn scene after scene' signal.fault? := by
  by_cases hswitch : directive = .switch
  · -- Taking a branch changes the step and nothing else.
    subst hswitch
    obtain ⟨rfl, hrest⟩ := Prod.mk.inj h
    obtain ⟨rfl, rfl⟩ := Prod.mk.inj hrest
    exact ⟨.refl rfl, .inl rfl, fun f hf => by cases hf⟩
  · have hleads : Directive.Leads turn scene (directive.run host turn scene) :=
      Directive.run_leads host hswitch (checked_of_drawnFrom hstep hinputs)
    rw [h] at hleads
    obtain ⟨htells, ⟨hlink, hlocal⟩ | ⟨named, hnamed, between, hstore, hgo⟩⟩ := hleads
    · refine ⟨htells, .inl hlink, fun f hf hguarded => ?_⟩
      cases signal with
      | fail fault =>
        obtain rfl := Option.some.inj hf
        rw [hlocal fault rfl] at hguarded
        cases hguarded
      | _ => cases hf
    · have hgoes : GoesTo host (directive :: rest) turn scene named.2 scene.store :=
        .here hnamed hstore (h.trans hgo)
      rw [Directive.goTo_eq, hstore] at hgo
      cases hparse : Location.parse? (scene.store.expand named.2) with
      | some l =>
        rw [hparse] at hgo
        obtain ⟨rfl, hafter⟩ := Prod.mk.inj hgo
        obtain ⟨rfl, -⟩ := Prod.mk.inj hafter
        exact ⟨htells, .inr ⟨_, _, l, hgoes, hparse, rfl⟩, fun f hf => by cases hf⟩
      | none =>
        rw [hparse] at hgo
        obtain ⟨rfl, hafter⟩ := Prod.mk.inj hgo
        obtain ⟨rfl, -⟩ := Prod.mk.inj hafter
        refine ⟨htells, .inl rfl, fun f hf _ => ⟨_, _, hgoes, hparse, ?_⟩⟩
        exact (Option.some.inj hf).symm

/-- Past a directive that lets the turn go on. -/
theorem Accounts.later {fault : Option Fault}
    (h : directive.run host turn scene = (.proceed, turn', scene'))
    (hfirst : Accounts host (directive :: rest) turn scene turn' scene' none)
    (hrest : Accounts host rest turn' scene' after scene'' fault) :
    Accounts host (directive :: rest) turn scene after scene'' fault where
  tells := hfirst.tells.trans hrest.tells
  link := by
    rcases hrest.link with hlink | ⟨target, store, l, hgoes, hparse, hlink⟩
    · rcases hfirst.link with hfirst | ⟨target, store, l, hgoes, hparse, hfirst⟩
      · exact .inl (hlink.trans hfirst)
      · exact .inr ⟨target, store, l, hgoes, hparse, hlink.trans hfirst⟩
    · exact .inr ⟨target, store, l, .later h hgoes, hparse, hlink⟩
  fails f hf hguarded := by
    obtain ⟨target, store, hgoes, hparse, heq⟩ := hrest.fails f hf hguarded
    exact ⟨target, store, .later h hgoes, hparse, heq⟩

/-- **Where a row of directives leads, and what it reports.** -/
theorem run_accounts {left : List Directive} {progress : Progress}
    (hstep : turn.step.DrawnFrom sources)
    (hinputs : ∀ source ∈ sources, ∀ input, source.input = some input → input.Checked)
    (h : turn.run host left scene = (progress, after, scene')) :
    after.step.DrawnFrom sources ∧ Accounts host left turn scene after scene' progress.fault? := by
  -- The step itself may change on the way; that it draws on the sources is what carries over.
  induction left generalizing turn scene with
  | nil =>
    obtain ⟨rfl, hrest⟩ := Prod.mk.inj h
    obtain ⟨rfl, rfl⟩ := Prod.mk.inj hrest
    exact ⟨hstep, .refl rfl, .inl rfl, fun f hf => by cases hf⟩
  | cons directive rest ih =>
    have hdrawn : (directive.run host turn scene).2.1.step.DrawnFrom sources :=
      Directive.drawnFrom_run hstep
    rw [run] at h
    split at h
    · next middle between hrun =>
      rw [hrun] at hdrawn
      obtain ⟨hdrawn', hrest⟩ := ih hdrawn h
      exact ⟨hdrawn', .later hrun (accounts_directive rest hstep hinputs hrun) hrest⟩
    -- However the row stops, the directive is the last that ran.
    all_goals
      next hrun =>
      rw [hrun] at hdrawn
      obtain ⟨rfl, hafter⟩ := Prod.mk.inj h
      obtain ⟨rfl, rfl⟩ := Prod.mk.inj hafter
      exact ⟨hdrawn, accounts_directive rest hstep hinputs hrun⟩

/-- **The target that a turn goes to is one that a source names.** -/
theorem GoesTo.exists_source {left : List Directive} {target : String} {store : Store}
    (h : GoesTo host left turn scene target store) (hstep : turn.step.DrawnFrom sources) :
    ∃ source ∈ sources, ∃ named ∈ source.targets, named.2 = target := by
  induction h with
  | here hnamed _ _ =>
    obtain ⟨source, hsource, hmem⟩ := hstep.mem_targets hnamed
    exact ⟨source, hsource, _, hmem, rfl⟩
  | @later directive rest turn turn' scene scene' target store hrun _ ih =>
    have hdrawn : (directive.run host turn scene).2.1.step.DrawnFrom sources :=
      Directive.drawnFrom_run hstep
    rw [hrun] at hdrawn
    exact ih hdrawn

end Turn

end Dialogue
