import Dialogue.Document.Lint
import Dialogue.Proofs.Keyed
/-!
# The steps inside a step

A step holds the steps of its branches, theirs, and so on. A step that runs is put together from
these: each of its directives comes whole from one of them.

## Main definitions

- `Step.DrawnFrom` — every directive of a step comes whole from one of some steps

## Main statements

- `Step.mem_authored` — the steps inside a step
- `Step.drawnFrom_authored`, `Step.DrawnFrom.onto` — drawing on them
-/

namespace Dialogue

namespace Step

theorem mem_authoredCases {part : Step} {cases : List (String × Step)} :
    part ∈ authoredCases cases ↔ ∃ p ∈ cases, part ∈ p.2.authored := by
  induction cases with
  | nil => simp [authoredCases]
  | cons p rest ih => simp [authoredCases, ih]

/-- Inside a step are the step itself and the steps inside its branches. -/
theorem mem_authored {part step : Step} :
    part ∈ step.authored ↔ part = step ∨ ∃ branch ∈ step.switch,
      (∃ p ∈ branch.cases, part ∈ p.2.authored) ∨ ∃ case ∈ branch.fallback, part ∈ case.authored := by
  obtain ⟨_, _, _, _, _, _, switch, _, _⟩ := step
  cases switch with
  | none => simp [authored]
  | some branch =>
    obtain ⟨_, cases, fallback⟩ := branch
    cases fallback <;> simp [authored, mem_authoredCases]

theorem self_mem_authored (step : Step) : step ∈ step.authored := mem_authored.2 (.inl rfl)

/-- The steps of a branch are inside the step. -/
theorem mem_authored_of_case {step : Step} {branch : Branch Step} (h : step.switch = some branch)
    {p : String × Step} (hp : p ∈ branch.cases) : p.2 ∈ step.authored :=
  mem_authored.2 (.inr ⟨branch, h, .inl ⟨p, hp, self_mem_authored _⟩⟩)

theorem mem_authored_of_fallback {step : Step} {branch : Branch Step}
    (h : step.switch = some branch) {case : Step} (hcase : branch.fallback = some case) :
    case ∈ step.authored :=
  mem_authored.2 (.inr ⟨branch, h, .inr ⟨case, hcase, self_mem_authored _⟩⟩)

/-- Every directive of the step comes whole from one of the sources. -/
structure DrawnFrom (sources : List Step) (step : Step) : Prop where
  links : ∀ links ∈ step.links, ∃ source ∈ sources, source.links = some links
  next : ∀ target ∈ step.next, ∃ source ∈ sources, source.next = some target
  input : ∀ input ∈ step.input, ∃ source ∈ sources, source.input = some input
  execute : ∀ call ∈ step.execute, ∃ source ∈ sources, source.execute = some call
  request : ∀ fetch ∈ step.request, ∃ source ∈ sources, source.request = some fetch
  clears : step.clearVariables = some true → ∃ source ∈ sources, source.clearVariables = some true
  switch : ∀ branch ∈ step.switch,
    (∀ p ∈ branch.cases, p.2 ∈ sources) ∧ ∀ case ∈ branch.fallback, case ∈ sources

/-- A step draws on the steps inside it. -/
theorem drawnFrom_authored (step : Step) : step.DrawnFrom step.authored where
  links _ h := ⟨step, self_mem_authored step, h⟩
  next _ h := ⟨step, self_mem_authored step, h⟩
  input _ h := ⟨step, self_mem_authored step, h⟩
  execute _ h := ⟨step, self_mem_authored step, h⟩
  request _ h := ⟨step, self_mem_authored step, h⟩
  clears h := ⟨step, self_mem_authored step, h⟩
  switch _ h :=
    ⟨fun _ hp => mem_authored_of_case h hp, fun _ hcase => mem_authored_of_fallback h hcase⟩

theorem DrawnFrom.mono {sources others : List Step} {step : Step} (h : step.DrawnFrom sources)
    (hsub : ∀ source ∈ sources, source ∈ others) : step.DrawnFrom others where
  links links hlinks := by
    obtain ⟨source, hsource, hsame⟩ := h.links links hlinks
    exact ⟨source, hsub source hsource, hsame⟩
  next target htarget := by
    obtain ⟨source, hsource, hsame⟩ := h.next target htarget
    exact ⟨source, hsub source hsource, hsame⟩
  input input hinput := by
    obtain ⟨source, hsource, hsame⟩ := h.input input hinput
    exact ⟨source, hsub source hsource, hsame⟩
  execute call hcall := by
    obtain ⟨source, hsource, hsame⟩ := h.execute call hcall
    exact ⟨source, hsub source hsource, hsame⟩
  request fetch hfetch := by
    obtain ⟨source, hsource, hsame⟩ := h.request fetch hfetch
    exact ⟨source, hsub source hsource, hsame⟩
  clears hclears := by
    obtain ⟨source, hsource, hsame⟩ := h.clears hclears
    exact ⟨source, hsub source hsource, hsame⟩
  switch branch hbranch := by
    obtain ⟨hcases, hfallback⟩ := h.switch branch hbranch
    exact ⟨fun p hp => hsub _ (hcases p hp), fun case hcase => hsub _ (hfallback case hcase)⟩

/-- A source laid over a step that draws on the sources draws on them too. -/
theorem DrawnFrom.onto {sources : List Step} {upper lower : Step} (hupper : upper ∈ sources)
    (hlower : lower.DrawnFrom sources) : (upper.onto lower).DrawnFrom sources where
  links links h := by
    rcases Option.or_eq_some_iff.1 h with h | ⟨-, h⟩
    · exact ⟨upper, hupper, h⟩
    · exact hlower.links links h
  next target h := by
    rcases Option.or_eq_some_iff.1 h with h | ⟨-, h⟩
    · exact ⟨upper, hupper, h⟩
    · exact hlower.next target h
  input input h := by
    rcases Option.or_eq_some_iff.1 h with h | ⟨-, h⟩
    · exact ⟨upper, hupper, h⟩
    · exact hlower.input input h
  execute call h := by
    rcases Option.or_eq_some_iff.1 h with h | ⟨-, h⟩
    · exact ⟨upper, hupper, h⟩
    · exact hlower.execute call h
  request fetch h := by
    rcases Option.or_eq_some_iff.1 h with h | ⟨-, h⟩
    · exact ⟨upper, hupper, h⟩
    · exact hlower.request fetch h
  clears h := by
    rcases Option.or_eq_some_iff.1 h with h | ⟨-, h⟩
    · exact ⟨upper, hupper, h⟩
    · exact hlower.clears h
  switch branch h := by cases h

/-- A target of a step that draws on the sources is a target of one of them. -/
theorem DrawnFrom.mem_targets {sources : List Step} {step : Step} (h : step.DrawnFrom sources)
    {named : String × String} (hnamed : named ∈ step.targets) :
    ∃ source ∈ sources, named ∈ source.targets := by
  rw [targets, List.mem_append, List.mem_append] at hnamed
  rcases hnamed with (hnamed | hnamed) | hnamed
  · obtain ⟨target, htarget, rfl⟩ := List.mem_map.1 hnamed
    obtain ⟨source, hsource, hnext⟩ := h.next target (Option.mem_toList.1 htarget)
    exact ⟨source, hsource, by simp [targets, hnext]⟩
  · obtain ⟨p, hp, rfl⟩ := List.mem_map.1 hnamed
    cases hlinks : step.links with
    | none => rw [hlinks] at hp; cases hp
    | some links =>
      obtain ⟨source, hsource, hsame⟩ := h.links links hlinks
      rw [hlinks] at hp
      refine ⟨source, hsource, List.mem_append_left _ (List.mem_append_right _ ?_)⟩
      rw [hsame]
      exact List.mem_map_of_mem hp
  · obtain ⟨target, htarget, rfl⟩ := List.mem_map.1 hnamed
    obtain ⟨fetch, hfetch, hfail⟩ := Option.bind_eq_some_iff.1 (Option.mem_toList.1 htarget)
    obtain ⟨source, hsource, hsame⟩ := h.request fetch hfetch
    exact ⟨source, hsource, by simp [targets, hsame, hfail]⟩

end Step

end Dialogue
