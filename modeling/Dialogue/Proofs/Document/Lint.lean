import Dialogue.Proofs.Step.Authored
import Dialogue.Proofs.Template
/-!
# Documents without errors

A document without issues of the severity `error` has only targets that are steps, apart from those
with placeholders, and only inputs with a variable and a pattern that can be read.

## Main definitions

- `Document.authored`, `Document.Names` — the steps and the targets that a document holds
- `Document.ErrorFree` — what the rules demand

## Main statements

- `Document.errorFree_of_issues`
-/

namespace Dialogue

open Lint

/-- What the rules demand of an input directive. -/
structure Input.Checked (input : Input) : Prop where
  variablePath : (input.variablePath.getD "").isEmpty = false
  pattern : input.kind = .text → ∀ pattern, input.pattern = some pattern →
    ∃ regex, Pattern.compile pattern = .ok regex

namespace Document

variable {document : Document}

/-- The steps of a document, those of branches included. -/
def authored (document : Document) : List Step := document.authoredSteps.map (·.2)

/-- A step or a trigger of the document names the target. -/
def Names (document : Document) (target : String) : Prop :=
  (∃ step ∈ document.authored, ∃ named ∈ step.targets, named.2 = target) ∨
    ∃ p ∈ document.triggers, p.2 = target

/-- What the rules demand of a document. -/
structure ErrorFree (document : Document) : Prop where
  targets : ∀ target, document.Names target → opensPlaceholder target.toList = false →
    ∃ l, Location.parse? target = some l ∧ (document.step? l).isSome
  inputs : ∀ step ∈ document.authored, ∀ input, step.input = some input → input.Checked

/-- The steps inside a step of a page are steps of the document. -/
theorem mem_authored_of_step? {l : Location} {step part : Step} (h : document.step? l = some step)
    (hpart : part ∈ step.authored) : part ∈ document.authored := by
  obtain ⟨steps, hpage, hget⟩ := Option.bind_eq_some_iff.1 h
  refine List.mem_map.2 ⟨(l, part), ?_, rfl⟩
  refine List.mem_flatMap.2 ⟨(l.page, steps), Keyed.mem_of_get? hpage, ?_⟩
  refine List.mem_flatMap.2 ⟨(step, l.index), List.mem_zipIdx_iff_getElem?.2 hget, ?_⟩
  exact List.mem_map.2 ⟨part, hpart, rfl⟩

/-! ### Issues -/

/-- What a rule finds in a step is an issue of the document. -/
theorem mem_issues_of_step (rule : Rule) {location : Location} {step : Step} {issue : Issue}
    (hstep : (location, step) ∈ document.authoredSteps)
    (hissue : issue ∈ rule.stepIssues document location step) : issue ∈ document.issues := by
  have hrule : rule ∈ Rule.all := by cases rule <;> decide
  refine List.mem_flatMap.2 ⟨rule, hrule, List.mem_append_left _ ?_⟩
  exact List.mem_flatMap.2 ⟨(location, step), hstep, hissue⟩

/-- What a rule finds outside all steps is an issue of the document. -/
theorem mem_issues_of_document (rule : Rule) {issue : Issue}
    (hissue : issue ∈ rule.documentIssues document) : issue ∈ document.issues := by
  have hrule : rule ∈ Rule.all := by cases rule <;> decide
  exact List.mem_flatMap.2 ⟨rule, hrule, List.mem_append_right _ hissue⟩

/-- A target without a placeholder that is no problem is a step. -/
theorem step?_of_targetProblem? {target : String} (h : targetProblem? document target = none)
    (hopens : opensPlaceholder target.toList = false) :
    ∃ l, Location.parse? target = some l ∧ (document.step? l).isSome := by
  unfold targetProblem? at h
  rw [hopens, if_neg Bool.false_ne_true] at h
  cases hparse : Location.parse? target with
  | none => simp [hparse] at h
  | some l =>
    cases hpage : document.page? l.page with
    | none => simp [hparse, hpage] at h
    | some steps =>
      have hlt : l.index < steps.length := by simpa [hparse, hpage] using h
      refine ⟨l, rfl, ?_⟩
      rw [step?, hpage, Option.bind_some, List.getElem?_eq_getElem hlt]
      rfl

/-- A target that is a problem is an error. -/
theorem targetProblem?_of_issues (location : Option Location) (subject : String) {target : String}
    (h : ∀ issue ∈ targetIssue? document location subject target, issue.severity ≠ .error) :
    targetProblem? document target = none := by
  cases hproblem : targetProblem? document target with
  | none => rfl
  | some problem =>
    rw [targetIssue?, hproblem] at h
    exact absurd rfl (h _ rfl)

/-- An input in which the rules find nothing has what they demand. -/
theorem checked_of_issues {location : Location} {step : Step} {input : Input}
    (hinput : step.input = some input)
    (h : ∀ rule : Rule, ∀ issue ∈ rule.stepIssues document location step, issue.severity ≠ .error) :
    input.Checked where
  variablePath := by
    have hvariable := h .missingVariable
    simp only [Rule.stepIssues, hinput] at hvariable
    cases hempty : (input.variablePath.getD "").isEmpty with
    | false => rfl
    | true =>
      rw [hempty, if_pos rfl] at hvariable
      exact absurd rfl (hvariable _ List.mem_cons_self)
  pattern hkind pattern hpattern := by
    have hcompiles := h .invalidPattern
    obtain ⟨kind, variablePath, source, choices, value, rejectMessage, expandValue⟩ := input
    obtain rfl : kind = .text := hkind
    obtain rfl : source = some pattern := hpattern
    simp only [Rule.stepIssues, hinput] at hcompiles
    cases hcompile : Pattern.compile pattern with
    | ok regex => exact ⟨regex, rfl⟩
    | error defect =>
      simp only [hcompile] at hcompiles
      exact absurd rfl (hcompiles _ List.mem_cons_self)

/-- **A document in which the rules find no error has what they demand.** -/
theorem errorFree_of_issues (h : ∀ issue ∈ document.issues, issue.severity ≠ .error) :
    document.ErrorFree where
  targets target hnames hopens := by
    refine step?_of_targetProblem? ?_ hopens
    rcases hnames with ⟨step, hstep, named, hnamed, rfl⟩ | ⟨p, hp, rfl⟩
    · obtain ⟨⟨location, step⟩, hmem, rfl⟩ := List.mem_map.1 hstep
      refine targetProblem?_of_issues (some location) named.1 fun issue hissue => h issue ?_
      exact mem_issues_of_step .danglingTarget hmem (List.mem_filterMap.2 ⟨named, hnamed, hissue⟩)
    · refine targetProblem?_of_issues none ("trigger '" ++ p.1 ++ "'") fun issue hissue => h issue ?_
      exact mem_issues_of_document .danglingTarget (List.mem_filterMap.2 ⟨p, hp, hissue⟩)
  inputs step hstep input hinput := by
    obtain ⟨⟨location, step⟩, hmem, rfl⟩ := List.mem_map.1 hstep
    have hfound : ∀ rule : Rule, ∀ issue ∈ rule.stepIssues document location step,
        issue.severity ≠ .error :=
      fun rule issue hissue => h issue (mem_issues_of_step rule hmem hissue)
    exact checked_of_issues hinput hfound

end Document

end Dialogue
