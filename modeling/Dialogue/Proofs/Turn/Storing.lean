import Dialogue.Proofs.Document.Lint
import Dialogue.Proofs.Turn.Cases
import Dialogue.Turn.Run
/-!
# What a turn stores

A directive changes the variables in one of three ways: it leaves them alone, it stores a value at a
path that its step names, or it drops them all. The value comes from the step, from the user, from a
function of the host or from a response. Where the turn leads stays the same or becomes what a target
of the step denotes. A property of the variables that such changes keep is kept by a whole row of
directives.

## Main definitions

- `Step.outputs` — the paths that a step stores values at
- `Directive.Supplies`, `Directive.Changes` — the values that are stored, and what becomes of a store
- `Directive.Effect` — what a directive does with step, store and target

## Main statements

- `Directive.run_effect` — one directive
- `Turn.drawnFrom_run`, `Store.KeptBy.run` — a row of directives keeps what its sources keep
-/

namespace Dialogue

variable {σ : Type}

namespace Step

/-- The paths that a step stores values at. An input directive without one fails. -/
def outputs (step : Step) : List String :=
  ((step.input.bind Input.variablePath).filter (!·.isEmpty)).toList ++
    (step.execute.bind Call.output).toList ++ (step.request.bind Fetch.output).toList

variable {step : Step}

theorem mem_outputs_of_input {input : Input} {path : String} (h : step.input = some input)
    (hpath : input.variablePath = some path) (hne : path.isEmpty = false) :
    path ∈ step.outputs := by
  simp [outputs, h, hpath, hne]

theorem mem_outputs_of_execute {call : Call} {path : String} (h : step.execute = some call)
    (hpath : call.output = some path) : path ∈ step.outputs := by
  simp [outputs, h, hpath]

theorem mem_outputs_of_request {fetch : Fetch} {path : String} (h : step.request = some fetch)
    (hpath : fetch.output = some path) : path ∈ step.outputs := by
  simp [outputs, h, hpath]

theorem mem_targets_of_next {target : String} (h : step.next = some target) :
    ("next", target) ∈ step.targets := by
  simp [targets, h]

theorem mem_targets_of_links {links : Keyed String} {text target : String}
    (h : step.links = some links) (htarget : Keyed.get? text links = some target) :
    ("link", target) ∈ step.targets := by
  rw [targets, h]
  refine List.mem_append_left _ (List.mem_append_right _ ?_)
  exact List.mem_map.2 ⟨(text, target), Keyed.mem_of_get? htarget, rfl⟩

theorem mem_targets_of_request {fetch : Fetch} {target : String} (h : step.request = some fetch)
    (htarget : fetch.failNext = some target) : ("failNext", target) ∈ step.targets := by
  simp [targets, h, htarget]

/-- A path of a step that draws on the sources is a path of one of them. -/
theorem DrawnFrom.mem_outputs {sources : List Step} (h : step.DrawnFrom sources) {path : String}
    (hpath : path ∈ step.outputs) : ∃ source ∈ sources, path ∈ source.outputs := by
  rw [outputs, List.mem_append, List.mem_append, Option.mem_toList, Option.mem_toList,
    Option.mem_toList] at hpath
  rcases hpath with (hpath | hpath) | hpath
  · obtain ⟨hpath, hne⟩ := Option.filter_eq_some_iff.1 hpath
    obtain ⟨input, hinput, hpath⟩ := Option.bind_eq_some_iff.1 hpath
    obtain ⟨source, hsource, hsame⟩ := h.input input hinput
    exact ⟨source, hsource, mem_outputs_of_input hsame hpath (by simpa using hne)⟩
  · obtain ⟨call, hcall, hpath⟩ := Option.bind_eq_some_iff.1 hpath
    obtain ⟨source, hsource, hsame⟩ := h.execute call hcall
    exact ⟨source, hsource, mem_outputs_of_execute hsame hpath⟩
  · obtain ⟨fetch, hfetch, hpath⟩ := Option.bind_eq_some_iff.1 hpath
    obtain ⟨source, hsource, hsame⟩ := h.request fetch hfetch
    exact ⟨source, hsource, mem_outputs_of_request hsame hpath⟩

end Step

namespace Directive

/-- A value that a directive of the step may store. -/
inductive Supplies (host : Host σ) (step : Step) (store : Store) : Json → Prop where
  | fixed {input : Input} (h : step.input = some input) :
      Supplies host step store (inputValue store input input.value)
  | chosen {input : Input} {choices : Keyed Json} {p : String × Json} (h : step.input = some input)
      (hchoices : input.choices = some choices) (hp : p ∈ choices) :
      Supplies host step store (inputValue store input p.2)
  | typed (text : String) : Supplies host step store (.text text)
  | returned {call : Call} {function : Function σ} {world : σ} {value : Json}
      (h : step.execute = some call)
      (hfunction : Keyed.get? call.function host.functions = some function)
      (hvalue : (function (call.args.map (argument store call.expandArgs)) world).1 =
        .ok (some value)) :
      Supplies host step store value
  | responded (text : String) : Supplies host step store (.ofResponse text)

/-- What becomes of a store. -/
inductive Changes (host : Host σ) (step : Step) (store : Store) : Store → Prop where
  | keep : Changes host step store store
  | set {path : String} {value : Json} (hpath : path ∈ step.outputs)
      (hvalue : Supplies host step store value) : Changes host step store (store.set path value)
  | clear (h : step.clearVariables = some true) : Changes host step store store.clear

/-- What a directive does with the step, the store and where the turn leads. -/
structure Effect (host : Host σ) (turn : Turn) (scene : Scene σ) (r : Result σ) : Prop where
  step : r.2.1.step = turn.step
  store : Changes host turn.step scene.store r.2.2.store
  link : r.2.1.nextLink = turn.nextLink ∨ ∃ named ∈ turn.step.targets, ∃ l,
    Location.parse? (scene.store.expand named.2) = some l ∧ r.2.1.nextLink = some l

variable {host : Host σ} {turn : Turn} {scene scene' : Scene σ}

/-- A directive that leads nowhere else. -/
theorem effect_stay {signal : Signal} {turn' : Turn} (hstep : turn'.step = turn.step)
    (hlink : turn'.nextLink = turn.nextLink)
    (hstore : Changes host turn.step scene.store scene'.store) :
    Effect host turn scene (signal, turn', scene') :=
  ⟨hstep, hstore, .inl hlink⟩

theorem effect_goTo {kind target : String} (hnamed : (kind, target) ∈ turn.step.targets)
    (hstore : scene'.store = scene.store) : Effect host turn scene (goTo target turn scene') := by
  have hkeep : Changes host turn.step scene.store scene'.store := by
    rw [hstore]
    exact .keep
  rw [goTo, resolve, Location.read, hstore]
  cases hparse : Location.parse? (scene.store.expand target) with
  | some l => exact ⟨rfl, hkeep, .inr ⟨(kind, target), hnamed, l, hparse, rfl⟩⟩
  | none => exact effect_stay rfl rfl hkeep

theorem effect_withInput {use : String → Result σ} (h : ∀ text, Effect host turn scene (use text)) :
    Effect host turn scene (withInput turn scene use) :=
  withInput_cases (fun text _ => h text) (effect_stay rfl rfl .keep) (effect_stay rfl rfl .keep)

/-- A value goes to the path that there is for it. -/
theorem changes_storeAt {path : Option String} (hstore : scene'.store = scene.store)
    (hpath : ∀ p, path = some p → p ∈ turn.step.outputs) {value : Json}
    (hvalue : Supplies host turn.step scene.store value) :
    Changes host turn.step scene.store (storeAt path value scene').store := by
  unfold storeAt
  split
  · next p =>
    show Changes host turn.step scene.store (scene'.store.set p value)
    rw [hstore]
    exact .set (hpath p rfl) hvalue
  · rw [hstore]
    exact .keep

/-- **What becomes of step, store and target**, whatever a directive does but take a branch. -/
theorem Does.effect {directive : Directive} {r : Result σ} (h : Does host turn scene directive r)
    (hswitch : directive ≠ .switch) : Effect host turn scene r := by
  cases h with
  | switch => exact absurd rfl hswitch
  | clear hclear => exact effect_stay rfl rfl (.clear hclear)
  | next htarget => exact effect_goTo (Step.mem_targets_of_next htarget) rfl
  | set hinput hpath hne =>
    exact effect_stay rfl rfl (.set (Step.mem_outputs_of_input hinput hpath hne) (.fixed hinput))
  | choice hinput hpath hne _ hchoices =>
    refine effect_withInput fun text => ?_
    split
    · next value hvalue =>
      have hp := Keyed.mem_of_get? hvalue
      exact effect_stay rfl rfl
        (.set (Step.mem_outputs_of_input hinput hpath hne) (.chosen hinput hchoices hp))
    · exact effect_stay rfl rfl .keep
  | text hinput hpath hne =>
    refine effect_withInput fun text => ?_
    split
    · exact effect_stay rfl rfl (.set (Step.mem_outputs_of_input hinput hpath hne) (.typed text))
    · exact effect_stay rfl rfl .keep
  | links htargets =>
    refine effect_withInput fun text => ?_
    split
    · next target htarget => exact effect_goTo (Step.mem_targets_of_links htargets htarget) rfl
    · exact effect_stay rfl rfl .keep
  | returned hcall hfunction hresult =>
    refine effect_stay rfl rfl (changes_storeAt ?_
      (fun p hp => Step.mem_outputs_of_execute hcall hp)
      (.returned hcall hfunction (congrArg Prod.fst hresult)))
    rfl
  | @responded fetch text world hfetch =>
    refine effect_stay rfl rfl (changes_storeAt ?_
      (fun p hp => Step.mem_outputs_of_request hfetch hp) (.responded text))
    rfl
  | diverted hfetch _ _ hnext => exact effect_goTo (Step.mem_targets_of_request hfetch hnext) rfl
  | _ => exact effect_stay rfl rfl .keep

/-- **What a directive does** with the step, the store and where the turn leads, unless it takes a
branch. -/
theorem run_effect (host : Host σ) (turn : Turn) (scene : Scene σ) {directive : Directive}
    (hswitch : directive ≠ .switch) : Effect host turn scene (directive.run host turn scene) :=
  (run_does host directive turn scene).effect hswitch

/-- Taking a branch draws on the same sources. -/
theorem drawnFrom_branched {sources : List Step} {step : Step} (h : step.DrawnFrom sources)
    (store : Store) : (branched store step).DrawnFrom sources := by
  unfold branched
  split
  · exact h
  · next branch hbranch =>
    obtain ⟨hcases, hfallback⟩ := h.switch branch hbranch
    split
    · next case hcase =>
      have hsource : case ∈ sources := by
        -- What is taken is the case for the value of the variable, or else the fallback.
        rcases Option.or_eq_some_iff.1 hcase with hcase | ⟨-, hcase⟩
        · exact hcases _ (Keyed.mem_of_get? hcase)
        · exact hfallback case hcase
      exact .onto hsource h
    · exact { h with switch := fun _ hnone => by cases hnone }

/-- A directive keeps drawing on the same sources. -/
theorem drawnFrom_run {sources : List Step} {directive : Directive}
    (hstep : turn.step.DrawnFrom sources) :
    (directive.run host turn scene).2.1.step.DrawnFrom sources := by
  by_cases hswitch : directive = .switch
  · subst hswitch
    exact drawnFrom_branched hstep scene.store
  · rw [(run_effect host turn scene hswitch).step]
    exact hstep

end Directive

/-! ### Properties of the variables -/

/-- A property of stores is kept by whatever steps that draw on the sources do. -/
structure Store.KeptBy (sources : List Step) (P : Store → Prop) : Prop where
  set : ∀ source ∈ sources, ∀ path ∈ source.outputs, ∀ store value, P store →
    P (Store.set store path value)
  clear : ∀ source ∈ sources, source.clearVariables = some true → ∀ store, P store →
    P (Store.clear store)

variable {sources : List Step} {P : Store → Prop} {host : Host σ}

theorem Store.KeptBy.changes (h : Store.KeptBy sources P) {step : Step} {store store' : Store}
    (hstep : step.DrawnFrom sources) (hchanges : Directive.Changes host step store store')
    (hstore : P store) : P store' := by
  cases hchanges with
  | keep => exact hstore
  | set hpath hvalue =>
    obtain ⟨source, hsource, hpath⟩ := hstep.mem_outputs hpath
    exact h.set source hsource _ hpath _ _ hstore
  | clear hclear =>
    obtain ⟨source, hsource, hclear⟩ := hstep.clears hclear
    exact h.clear source hsource hclear _ hstore

/-- A directive keeps what its sources keep. -/
theorem Store.KeptBy.run_directive (h : Store.KeptBy sources P) (host : Host σ) {turn : Turn}
    {scene : Scene σ} (hstep : turn.step.DrawnFrom sources) (hstore : P scene.store)
    (directive : Directive) : P (directive.run host turn scene).2.2.store := by
  by_cases hswitch : directive = .switch
  · subst hswitch
    exact hstore
  · exact h.changes hstep (Directive.run_effect host turn scene hswitch).store hstore

variable {left : List Directive} {turn after : Turn} {scene scene' : Scene σ} {progress : Progress}

/-- A row of directives keeps drawing on the same sources. -/
theorem Turn.drawnFrom_run (hstep : turn.step.DrawnFrom sources)
    (h : turn.run host left scene = (progress, after, scene')) : after.step.DrawnFrom sources := by
  induction left generalizing turn scene with
  | nil =>
    obtain ⟨-, hafter⟩ := Prod.mk.inj h
    exact (Prod.mk.inj hafter).1 ▸ hstep
  | cons directive rest ih =>
    have hstep' : (directive.run host turn scene).2.1.step.DrawnFrom sources :=
      Directive.drawnFrom_run hstep
    rw [run] at h
    split at h <;> rename_i hrun <;> rw [hrun] at hstep'
    · exact ih hstep' h
    all_goals exact (Prod.mk.inj (Prod.mk.inj h).2).1 ▸ hstep'

/-- **A row of directives keeps what its sources keep.** -/
theorem Store.KeptBy.run (hkept : Store.KeptBy sources P) (hstep : turn.step.DrawnFrom sources)
    (hstore : P scene.store) (h : turn.run host left scene = (progress, after, scene')) :
    P scene'.store := by
  induction left generalizing turn scene with
  | nil =>
    obtain ⟨-, hafter⟩ := Prod.mk.inj h
    exact (Prod.mk.inj hafter).2 ▸ hstore
  | cons directive rest ih =>
    have hstep' : (directive.run host turn scene).2.1.step.DrawnFrom sources :=
      Directive.drawnFrom_run hstep
    have hstore' := hkept.run_directive host hstep hstore directive
    rw [Turn.run] at h
    split at h <;> rename_i hrun <;> rw [hrun] at hstep' hstore'
    · exact ih hstep' hstore' h
    all_goals exact (Prod.mk.inj (Prod.mk.inj h).2).2 ▸ hstore'

end Dialogue
