import Dialogue.Proofs.Json.Reader
import Dialogue.Proofs.Store.Tidy
import Dialogue.Proofs.Turn.Storing
/-!
# Turns keep the store tidy

Everything a turn stores comes from its step, from the store, from the user, from a response or from
a function of the host. When the values in the step are tidy and the functions of the host make tidy
values of tidy ones, a turn keeps a tidy store tidy.

## Main definitions

- `Step.HoldsTidy`, `Step.Tidy` — the values in a step, and in its branches, are tidy
- `Host.Tidy` — functions make tidy values of tidy ones

## Main statements

- `Directive.run_tidy`, `Turn.run_tidy` — one directive, and a row of them
-/

namespace Dialogue

variable {σ : Type}

/-- The values in an input directive are tidy. -/
def Input.Tidy (input : Input) : Prop :=
  input.value.Tidy ∧ ∀ choices ∈ input.choices, ∀ p ∈ choices, p.2.Tidy

/-- The arguments of a call are tidy. -/
def Call.Tidy (call : Call) : Prop := ∀ arg ∈ call.args, arg.Tidy

namespace Step

/-- The values that a step holds itself are tidy. -/
structure HoldsTidy (step : Step) : Prop where
  input : ∀ input ∈ step.input, input.Tidy
  execute : ∀ call ∈ step.execute, call.Tidy

/-- The values in a step and in its branches are tidy. -/
structure Tidy (step : Step) : Prop where
  own : step.HoldsTidy
  branches : ∀ branch ∈ step.switch,
    (∀ p ∈ branch.cases, p.2.HoldsTidy) ∧ ∀ case ∈ branch.fallback, case.HoldsTidy

theorem HoldsTidy.onto {upper lower : Step} (hupper : upper.HoldsTidy) (hlower : lower.HoldsTidy) :
    (upper.onto lower).HoldsTidy where
  input input h := by
    rcases Option.or_eq_some_iff.1 h with h | ⟨-, h⟩
    · exact hupper.input input h
    · exact hlower.input input h
  execute call h := by
    rcases Option.or_eq_some_iff.1 h with h | ⟨-, h⟩
    · exact hupper.execute call h
    · exact hlower.execute call h

/-- A step without branches. -/
theorem HoldsTidy.tidy {step : Step} (h : step.HoldsTidy) (hswitch : step.switch = none) :
    step.Tidy :=
  ⟨h, fun branch hbranch => by rw [hswitch] at hbranch; cases hbranch⟩

end Step

/-- Every value in a document is tidy. -/
def Document.Tidy (document : Document) : Prop :=
  ∀ location step, document.step? location = some step → step.Tidy

/-- A document is tidy when the steps of its pages are. -/
theorem Document.tidy_of_pages {document : Document}
    (h : ∀ page ∈ document.pages, ∀ step ∈ page.2, step.Tidy) : document.Tidy := by
  intro location step hstep
  obtain ⟨steps, hpage, hitem⟩ := Option.bind_eq_some_iff.1 hstep
  exact h _ (Keyed.mem_of_get? hpage) step (List.mem_of_getElem? hitem)

/-- From tidy arguments, the functions of a host make tidy values. -/
def Host.Tidy (host : Host σ) : Prop :=
  ∀ name function, Keyed.get? name host.functions = some function → ∀ args world value,
    (∀ arg ∈ args, arg.Tidy) → (function args world).1 = .ok (some value) → value.Tidy

/-- Rendering a list gives a text. -/
theorem exists_text_of_forEach {args : List Json} {value : Json} (h : forEach args = .ok value) :
    ∃ s, value = .text s := by
  unfold forEach at h
  split at h
  · next items template rest =>
    cases hdelimiter : ForEach.delimiter rest with
    | error reason =>
      rw [hdelimiter] at h
      cases h
    | ok delimiter =>
      rw [hdelimiter] at h
      exact ⟨_, (Except.ok.inj h).symm⟩
  · cases h
  · cases h
  · cases h

/-- The standard functions make texts only. -/
theorem Host.tidy_standard (send : Request → σ → Except String String × σ) :
    Host.Tidy ⟨Functions.standard, send⟩ := by
  intro name function hfunction args world value _ hvalue
  obtain ⟨rfl, rfl⟩ : "forEach" = name ∧
      (fun args world => ((forEach args).map some, world)) = function := by
    simpa [Functions.standard, Keyed.get?] using hfunction
  cases hrendered : forEach args with
  | error reason =>
    simp only [hrendered] at hvalue
    cases hvalue
  | ok rendered =>
    simp only [hrendered] at hvalue
    obtain rfl := Option.some.inj (Except.ok.inj hvalue)
    obtain ⟨s, rfl⟩ := exists_text_of_forEach hrendered
    trivial

namespace Directive

/-- What a directive leaves is tidy. -/
structure LeavesTidy (r : Result σ) : Prop where
  step : r.2.1.step.Tidy
  store : r.2.2.store.Tidy

variable {host : Host σ} {turn : Turn} {scene : Scene σ}

/-- Taking a branch keeps a step tidy. -/
theorem tidy_branched {step : Step} (h : step.Tidy) (store : Store) :
    (branched store step).Tidy := by
  unfold branched
  split
  · exact h
  · next branch hbranch =>
    obtain ⟨hcases, hfallback⟩ := h.branches branch hbranch
    split
    · next case hcase =>
      refine Step.HoldsTidy.tidy (Step.HoldsTidy.onto ?_ h.own) rfl
      rcases Option.or_eq_some_iff.1 hcase with hget | ⟨-, hget⟩
      · exact hcases _ (Keyed.mem_of_get? hget)
      · exact hfallback case hget
    · exact Step.HoldsTidy.tidy ⟨h.own.input, h.own.execute⟩ rfl

theorem tidy_inputValue {store : Store} (h : store.Tidy) (input : Input) {value : Json}
    (hvalue : value.Tidy) : (inputValue store input value).Tidy := by
  unfold inputValue
  split
  · exact h.expandValue hvalue
  · exact hvalue

theorem tidy_argument {store : Store} (h : store.Tidy) (expand : Bool) {arg : Json}
    (harg : arg.Tidy) : (argument store expand arg).Tidy := by
  unfold argument
  split
  · split
    · cases hlone : store.lone? _ with
      | none => trivial
      | some value => exact h.lone? hlone
    · exact harg
  · exact harg

/-- The value of a response is tidy. -/
theorem tidy_ofResponse (text : String) : (Json.ofResponse text).Tidy := by
  unfold Json.ofResponse
  cases h : Json.parse? text with
  | none => trivial
  | some value => exact Json.tidy_parse? h

/-- What a tidy step stores over a tidy store is tidy. -/
theorem Supplies.tidy (hhost : host.Tidy) {step : Step} (hstep : step.Tidy) {store : Store}
    (hstore : store.Tidy) {value : Json} (h : Supplies host step store value) : value.Tidy := by
  cases h with
  | fixed hinput => exact tidy_inputValue hstore _ (hstep.own.input _ hinput).1
  | chosen hinput hchoices hp =>
    exact tidy_inputValue hstore _ ((hstep.own.input _ hinput).2 _ hchoices _ hp)
  | typed text => trivial
  | @returned call function world value hcall hfunction hvalue =>
    refine hhost _ _ hfunction _ _ _ (fun arg harg => ?_) hvalue
    obtain ⟨old, hold, rfl⟩ := List.mem_map.1 harg
    exact tidy_argument hstore _ (hstep.own.execute call hcall old hold)
  | responded text => exact tidy_ofResponse text

theorem Changes.tidy (hhost : host.Tidy) {step : Step} (hstep : step.Tidy) {store store' : Store}
    (hstore : store.Tidy) (h : Changes host step store store') : store'.Tidy := by
  cases h with
  | keep => exact hstore
  | set hpath hvalue => exact hstore.set (hvalue.tidy hhost hstep hstore) _
  | clear hclear => exact hstore.clear

/-- **A directive keeps the step and the store tidy.** -/
theorem run_tidy (hhost : host.Tidy) (directive : Directive) (hstep : turn.step.Tidy)
    (hstore : scene.store.Tidy) : LeavesTidy (directive.run host turn scene) := by
  by_cases hswitch : directive = .switch
  · subst hswitch
    exact ⟨tidy_branched hstep scene.store, hstore⟩
  · obtain ⟨hsame, hchanges, -⟩ := run_effect host turn scene hswitch
    exact ⟨hsame ▸ hstep, hchanges.tidy hhost hstep hstore⟩

end Directive

/-- **A row of directives keeps the step and the store tidy.** -/
theorem Turn.run_tidy {host : Host σ} (hhost : host.Tidy) (left : List Directive) {turn : Turn}
    {scene : Scene σ} (hstep : turn.step.Tidy) (hstore : scene.store.Tidy) :
    (turn.run host left scene).2.1.step.Tidy ∧ (turn.run host left scene).2.2.store.Tidy := by
  induction left generalizing turn scene with
  | nil => exact ⟨hstep, hstore⟩
  | cons directive rest ih =>
    obtain ⟨hstep', hstore'⟩ := directive.run_tidy hhost hstep hstore
    rw [run]
    split <;> rename_i h <;> rw [h] at hstep' hstore'
    · exact ih hstep' hstore'
    all_goals exact ⟨hstep', hstore'⟩

end Dialogue
