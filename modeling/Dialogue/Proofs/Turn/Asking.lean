import Dialogue.Proofs.Keyed
import Dialogue.Proofs.Template
import Dialogue.Proofs.Turn.Run
/-!
# Steps that are sure to ask

A step that may wait for the user need not do so: its branch may lead elsewhere, and a directive
before the wait may fail. A step of which neither can happen asks the user whenever it runs, whatever
is stored and whatever the host does.

## Main definitions

- `Input.isReady`, `Step.asksPlainly`, `Step.surelyAsks`
- `Step.cleared` — the variables once the step has dropped them

## Main statements

- `Turn.run_asks` — with the directives in their usual order, such a step asks
-/

namespace Dialogue

variable {σ : Type}

/-- Whether nothing is missing or wrong in an input directive. -/
def Input.isReady (input : Input) : Bool :=
  input.variablePath.any (!·.isEmpty) &&
    match input.kind with
    | .set => true
    | .choice => input.choices.isSome
    | .text => input.pattern.all fun pattern => (Pattern.compile pattern).toOption.isSome

namespace Step

/-- Whether a target denotes a location as it is written. -/
def isPlainTarget (target : String) : Bool :=
  !target.toList.contains '{' && (Location.parse? target).isSome

/-- Whether a step without a branch asks the user: it waits, and no directive before the wait can
fail. -/
def asksPlainly (step : Step) : Bool :=
  asksItself step.links step.input && step.next.all isPlainTarget && step.input.all Input.isReady

/-- Whether a step asks the user whichever branch is taken. -/
def surelyAsks (step : Step) : Bool :=
  match step.switch with
  | none => step.asksPlainly
  | some branch =>
    branch.cases.all (fun (_, case) => (case.onto step).asksPlainly) &&
      match branch.fallback with
      | some case => (case.onto step).asksPlainly
      | none => { step with switch := none }.asksPlainly

/-- The variables once the step has dropped them, if it does. -/
def cleared (step : Step) (store : Store) : Store :=
  if step.clearVariables = some true then store.clear else store

/-- A step that waits, and not for an input to store, has links. -/
theorem links_of_asksItself {links : Option (Keyed String)} {input : Option Input}
    (h : asksItself links input) (hset : input.all (·.kind == .set)) : links.isSome := by
  rw [asksItself, Bool.or_eq_true] at h
  rcases h with h | h
  · exact h
  · cases input with
    | none => cases h
    | some input =>
      rw [Option.all_some, beq_iff_eq] at hset
      simp [hset] at h

end Step

namespace Directive

variable (host : Host σ) {turn : Turn} (scene : Scene σ)

/-- Whichever branch is taken, the step asks. -/
theorem asksPlainly_branched {step : Step} (h : step.surelyAsks) (store : Store) :
    (branched store step).asksPlainly := by
  unfold Step.surelyAsks at h
  unfold branched
  cases hswitch : step.switch with
  | none =>
    simp only [hswitch] at h ⊢
    exact h
  | some branch =>
    simp only [hswitch] at h ⊢
    rw [Bool.and_eq_true, List.all_eq_true] at h
    obtain ⟨hcases, hfallback⟩ := h
    cases hget : Keyed.get? (branchKey store branch.subject) branch.cases with
    | some case =>
      exact hcases _ (Keyed.mem_of_get? hget)
    | none =>
      cases hfall : branch.fallback with
      | some case => rwa [hfall] at hfallback
      | none => rwa [hfall] at hfallback

/-- A plain target is gone to. -/
theorem run_next (h : turn.step.next.all Step.isPlainTarget) :
    ∃ link, run host .next turn scene = (.proceed, { turn with nextLink := link }, scene) := by
  rw [run]
  split
  · next target htarget =>
    rw [htarget, Option.all_some, Step.isPlainTarget, Bool.and_eq_true] at h
    obtain ⟨hplain, hparse⟩ := h
    obtain ⟨location, hlocation⟩ := Option.isSome_iff_exists.1 hparse
    have hbrace : '{' ∉ target.toList := by simpa using hplain
    refine ⟨some location, ?_⟩
    rw [goTo, resolve, Store.expand_of_not_mem _ hbrace, Location.read, hlocation]
    rfl
  · exact ⟨turn.nextLink, rfl⟩

/-- Waiting for an answer that is not there yet. -/
theorem withInput_of_pending (h : turn.reply = .pending) (use : String → Result σ) :
    withInput turn scene use = (.ask, turn.request, scene) := by
  rw [withInput, h]

/-- A pattern that can be read gives its expression. -/
theorem inputPattern_of_ready {input : Input}
    (h : input.pattern.all fun pattern => (Pattern.compile pattern).toOption.isSome)
    (location : Location) : ∃ regex?, inputPattern input location = .ok regex? := by
  unfold inputPattern
  cases hpattern : input.pattern with
  | none => exact ⟨none, rfl⟩
  | some pattern =>
    rw [hpattern, Option.all_some] at h
    dsimp only
    cases hcompile : Pattern.compile pattern with
    | ok regex => exact ⟨some regex, rfl⟩
    | error defect =>
      rw [hcompile] at h
      cases h

/-- An input directive in which nothing is wrong asks, or stores its fixed value. -/
theorem run_input (h : turn.step.input.all Input.isReady) (hpending : turn.reply = .pending) :
    (∃ turn', run host .input turn scene = (.ask, turn', scene)) ∨
      turn.step.input.all (·.kind == .set) ∧
        ∃ scene', run host .input turn scene = (.proceed, turn, scene') := by
  rw [run]
  split
  · next hinput => exact .inr ⟨by rw [hinput]; rfl, scene, rfl⟩
  · next input hinput =>
    rw [hinput, Option.all_some, Input.isReady, Bool.and_eq_true] at h
    obtain ⟨hpath, hkind⟩ := h
    obtain ⟨path, hvariable, hne⟩ : ∃ path, input.variablePath = some path ∧ path.isEmpty = false := by
      simpa [Option.any_eq_true] using hpath
    simp only [hvariable, hne, Bool.false_eq_true, if_false]
    unfold runInput
    cases hk : input.kind with
    | set => exact .inr ⟨by rw [hinput, Option.all_some, hk]; rfl, _, rfl⟩
    | choice =>
      rw [hk] at hkind
      obtain ⟨choices, hchoices⟩ := Option.isSome_iff_exists.1 hkind
      simp only [hchoices]
      exact .inl ⟨_, withInput_of_pending scene hpending _⟩
    | text =>
      rw [hk] at hkind
      obtain ⟨regex?, hpattern⟩ := inputPattern_of_ready hkind turn.location
      simp only [hpattern]
      exact .inl ⟨_, withInput_of_pending scene hpending _⟩

/-- Links ask. -/
theorem run_links (h : turn.step.links.isSome) (hpending : turn.reply = .pending) :
    run host .links turn scene = (.ask, turn.request, scene) := by
  obtain ⟨targets, htargets⟩ := Option.isSome_iff_exists.1 h
  rw [run, htargets]
  exact withInput_of_pending scene hpending _

/-- Clearing goes on with the same turn. -/
theorem run_clear (turn : Turn) : ∃ scene', run host .clear turn scene = (.proceed, turn, scene') ∧
    scene'.store = turn.step.cleared scene.store := by
  rw [run, Step.cleared]
  split <;> exact ⟨_, rfl, rfl⟩

/-- A message goes on with the same turn and the same variables. -/
theorem run_message (turn : Turn) :
    ∃ scene', run host .message turn scene = (.proceed, turn, scene') ∧
      scene'.store = scene.store := by
  rw [run]
  split <;> exact ⟨_, rfl, rfl⟩

end Directive

namespace Turn

variable {host : Host σ} {directive : Directive} {rest : List Directive} {turn turn' : Turn}
  {scene scene' : Scene σ}

/-- Past a directive that lets the turn go on. -/
theorem run_cons_of_proceed (h : directive.run host turn scene = (.proceed, turn', scene')) :
    run host (directive :: rest) turn scene = run host rest turn' scene' := by
  rw [run, h]

/-- At a directive that asks. -/
theorem asks_run_cons (h : directive.run host turn scene = (.ask, turn', scene')) :
    (run host (directive :: rest) turn scene).1.asks := by
  rw [run, h]
  rfl

/-- **A step that is sure to ask asks**, wherever it stands and whatever is stored. -/
theorem run_asks {step : Step} (h : step.surelyAsks) (host : Host σ) (location : Location)
    (next : Option Location) (scene : Scene σ) :
    (run host Directive.standard (ofStep step location next) scene).1.asks := by
  have hplain := Directive.asksPlainly_branched h scene.store
  rw [Step.asksPlainly, Bool.and_eq_true, Bool.and_eq_true] at hplain
  obtain ⟨⟨hasks, hnext⟩, hinput⟩ := hplain
  -- Four directives stand before the waits, and none of them touches the answer or the step.
  generalize hturn : { ofStep step location next with
    step := Directive.branched scene.store step } = turn
  have hstep : turn.step = Directive.branched scene.store step := by rw [← hturn]
  have hpending : turn.reply = .pending := by rw [← hturn]; rfl
  rw [← hstep] at hasks hnext hinput
  have hswitch : Directive.run host .switch (ofStep step location next) scene =
      (.proceed, turn, scene) := by rw [← hturn]; rfl
  obtain ⟨cleared, hclear, -⟩ := Directive.run_clear host scene turn
  obtain ⟨said, hmessage, -⟩ := Directive.run_message host cleared turn
  obtain ⟨link, hlink⟩ := Directive.run_next host said hnext
  rw [Directive.standard, run_cons_of_proceed hswitch, run_cons_of_proceed hclear,
    run_cons_of_proceed hmessage, run_cons_of_proceed hlink]
  have hready : { turn with nextLink := link }.step.input.all Input.isReady := hinput
  rcases Directive.run_input host said hready hpending with
    ⟨after, hask⟩ | ⟨hset, stored, hstored⟩
  · exact asks_run_cons hask
  · rw [run_cons_of_proceed hstored]
    exact asks_run_cons (Directive.run_links host stored (Step.links_of_asksItself hasks hset)
      hpending)

end Turn

end Dialogue
