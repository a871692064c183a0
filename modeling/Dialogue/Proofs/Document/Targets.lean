import Dialogue.Proofs.Document.Lint
import Dialogue.Proofs.Step.Targets
import Dialogue.Turn.Directive
/-!
# Dangling targets

A target stands at an occurrence of a document: a field of a step, which may lie inside branches, or
a trigger. The rule about targets looks at every occurrence once. What it reports is never followed,
for no stored values. It passes over targets with two opening braces side by side, also where they
begin no placeholder and where none would be replaced.

## Main definitions

- `Document.Occurrence`, `Document.Mentions` — the targets of a document by position
- `Document.Dangles`, `Document.follow` — a target that is no step, and going to a target

## Main statements

- `Document.lists_mentions` — every occurrence is visited once
- `Document.filter_issues`, `Document.ruleIssues_danglingTarget`
- `Document.follow_of_dangles`, `Document.follow_of_not_dangles`
- `Document.danglingTargets_reported`
-/

namespace Dialogue

namespace Document

open Lint

variable {document : Document}

/-! ### Positions in a document -/

/-- Where a target stands: in a field of a step inside a step of a page, or as a trigger. -/
inductive Occurrence where
  | field (page index : Nat) (route : List Step.Way) (field : Step.Field)
  | trigger (index : Nat)
  deriving DecidableEq, Repr

/-- A target with the location it is reported at and what it is the target of. -/
structure Mention where
  location : Option Location
  subject : String
  target : String
  deriving DecidableEq, Repr

/-- What stands where: a field of a step inside a step of a page, or a trigger, has a target. -/
inductive Mentions (document : Document) : Occurrence → Mention → Prop
  | field {page index : Nat} {id : String} {steps : List Step} {step part : Step}
      {route : List Step.Way} {field : Step.Field} {target : String}
      (hpage : document.pages[page]? = some (id, steps)) (hstep : steps[index]? = some step)
      (hpart : step.inside? route = some part) (htarget : part.target? field = some target) :
      document.Mentions (.field page index route field) ⟨some ⟨id, index⟩, field.name, target⟩
  | trigger {index : Nat} {name target : String}
      (htrigger : document.triggers[index]? = some (name, target)) :
      document.Mentions (.trigger index) ⟨none, "trigger '" ++ name ++ "'", target⟩

/-- The targets inside a step of a page, with their occurrences. -/
def stepMentions (page : Nat) (id : String) (index : Nat) (step : Step) :
    List (Occurrence × Mention) :=
  step.visits.flatMap fun v =>
    v.2.named.map fun e => (.field page index v.1 e.1, ⟨some ⟨id, index⟩, e.1.name, e.2⟩)

/-- The targets of a document with their occurrences. -/
def mentions (document : Document) : List (Occurrence × Mention) :=
  ((numbered document.pages).flatMap fun p =>
    (numbered p.2.2).flatMap fun s => stepMentions p.1 p.2.1 s.1 s.2) ++
  (numbered document.triggers).map fun t =>
    (.trigger t.1, ⟨none, "trigger '" ++ t.2.1 ++ "'", t.2.2⟩)

theorem lists_stepMentions (page : Nat) (id : String) (index : Nat) (step : Step) :
    Lists (fun o mention => ∃ route part, step.inside? route = some part ∧
        ∃ field target, part.target? field = some target ∧
          (Occurrence.field page index route field,
            Mention.mk (some ⟨id, index⟩) field.name target) = (o, mention))
      (stepMentions page id index step) := by
  refine (Step.lists_visits step).flatMap (fun route part _ => (Step.lists_named part).map
    (f := fun field target => (Occurrence.field page index route field,
      Mention.mk (some ⟨id, index⟩) field.name target)) fun heq => ?_) ?_
  · exact (Occurrence.field.inj heq).2.2.2
  · rintro route _ route' _ _ _ _ ⟨_, _, _, heq⟩ ⟨_, _, _, heq'⟩
    exact (Occurrence.field.inj ((Prod.mk.inj heq).1.trans (Prod.mk.inj heq').1.symm)).2.2.1

/-- **The walk through a document comes by every occurrence of a target once.** -/
theorem lists_mentions (document : Document) : Lists document.Mentions document.mentions := by
  have hpage := fun (page : Nat) (p : String × List Step) => (Lists.numbered p.2).flatMap
    (fun index step _ => lists_stepMentions page p.1 index step) (by
      rintro index _ index' _ _ _ _ ⟨_, _, _, _, _, _, heq⟩ ⟨_, _, _, _, _, _, heq'⟩
      exact (Occurrence.field.inj ((Prod.mk.inj heq).1.trans (Prod.mk.inj heq').1.symm)).2.1)
  have hpages := (Lists.numbered document.pages).flatMap (fun page p _ => hpage page p) (by
    rintro page _ page' _ _ _ _ ⟨_, _, _, _, _, _, _, _, _, heq⟩ ⟨_, _, _, _, _, _, _, _, _, heq'⟩
    exact (Occurrence.field.inj ((Prod.mk.inj heq).1.trans (Prod.mk.inj heq').1.symm)).1)
  have htriggers := (Lists.numbered document.triggers).map
    (f := fun i p => (Occurrence.trigger i, Mention.mk none ("trigger '" ++ p.1 ++ "'") p.2))
    Occurrence.trigger.inj
  refine (hpages.append htriggers ?_).congr fun o mention => ?_
  · rintro _ _ _ ⟨_, _, _, _, _, _, _, _, _, _, _, _, heq⟩ ⟨_, _, _, heq'⟩
    cases (Prod.mk.inj heq).1.trans (Prod.mk.inj heq').1.symm
  · constructor
    · rintro (⟨page, p, hp, index, step, hstep, route, part, hpart, field, target, htarget, heq⟩ |
        ⟨index, p, hp, heq⟩)
      · obtain ⟨rfl, rfl⟩ := Prod.mk.inj heq
        exact .field hp hstep hpart htarget
      · obtain ⟨rfl, rfl⟩ := Prod.mk.inj heq
        exact .trigger hp
    · rintro (⟨hp, hstep, hpart, htarget⟩ | ⟨hp⟩)
      · exact .inl ⟨_, _, hp, _, _, hstep, _, _, hpart, _, _, htarget, rfl⟩
      · exact .inr ⟨_, _, hp, rfl⟩

/-! ### Issues about targets -/

theorem rule_of_mem_stepIssues {rule : Rule} {location : Location} {step : Step} {issue : Issue}
    (h : issue ∈ rule.stepIssues document location step) : issue.rule = rule := by
  cases rule with
  | danglingTarget =>
    obtain ⟨named, -, hissue⟩ := List.mem_filterMap.1 h
    obtain ⟨problem, -, rfl⟩ := Option.map_eq_some_iff.1 hissue
    rfl
  | missingVariable =>
    simp only [Rule.stepIssues] at h
    split at h
    · cases h
    · split at h
      · rw [List.mem_singleton.1 h]
      · cases h
  | invalidPattern =>
    simp only [Rule.stepIssues] at h
    split at h
    · split at h
      · split at h
        · cases h
        · rw [List.mem_singleton.1 h]
      · rw [List.mem_singleton.1 h]
    · cases h

theorem rule_of_mem_documentIssues {rule : Rule} {issue : Issue}
    (h : issue ∈ rule.documentIssues document) : issue.rule = rule := by
  cases rule with
  | danglingTarget =>
    obtain ⟨trigger, -, hissue⟩ := List.mem_filterMap.1 h
    obtain ⟨problem, -, rfl⟩ := Option.map_eq_some_iff.1 hissue
    rfl
  | missingVariable => cases h
  | invalidPattern => cases h

/-- What one rule finds in a document. -/
def ruleIssues (document : Document) (rule : Rule) : List Issue :=
  (document.authoredSteps.flatMap fun p => rule.stepIssues document p.1 p.2) ++
    rule.documentIssues document

theorem rule_of_mem_ruleIssues {rule : Rule} {issue : Issue}
    (h : issue ∈ document.ruleIssues rule) : issue.rule = rule := by
  rcases List.mem_append.1 h with hstep | hdocument
  · obtain ⟨p, -, hp⟩ := List.mem_flatMap.1 hstep
    exact rule_of_mem_stepIssues hp
  · exact rule_of_mem_documentIssues hdocument

/-- The issues under the name of a rule are what the rule finds. -/
theorem filter_issues (rule : Rule) :
    document.issues.filter (·.rule = rule) = document.ruleIssues rule := by
  have hkept : ∀ other : Rule, (document.ruleIssues other).filter (·.rule = rule) =
      if other = rule then document.ruleIssues rule else [] := by
    intro other
    split
    · next hsame =>
      subst hsame
      exact List.filter_eq_self.2 fun issue hissue => by simp [rule_of_mem_ruleIssues hissue]
    · next hother =>
      exact List.filter_eq_nil_iff.2 fun issue hissue => by
        simp [rule_of_mem_ruleIssues hissue, hother]
  have hissues : document.issues = Rule.all.flatMap document.ruleIssues := rfl
  rw [hissues, List.filter_flatMap]
  simp only [hkept]
  cases rule <;> simp [Rule.all]

/-- The issue of the target at an occurrence, if it is reported. -/
def report? (document : Document) (mention : Mention) : Option Issue :=
  targetIssue? document mention.location mention.subject mention.target

/-- **The rule about targets reports along the walk.** -/
theorem ruleIssues_danglingTarget :
    document.ruleIssues .danglingTarget =
      document.mentions.filterMap fun e => document.report? e.2 := by
  have hstep : ∀ page id index step, ((step.authored.map (Location.mk id index, ·)).flatMap fun p =>
      Rule.danglingTarget.stepIssues document p.1 p.2) =
        (stepMentions page id index step).filterMap fun e => document.report? e.2 := by
    intro page id index step
    rw [← Step.visits_map_snd, stepMentions, List.filterMap_flatMap, List.map_map, List.flatMap_map]
    refine congrArg (step.visits.flatMap ·) (funext fun v => ?_)
    show v.2.targets.filterMap _ = _
    rw [Step.targets_eq_map_named, List.filterMap_map, List.filterMap_map]
    rfl
  have htriggers := congrArg (List.filterMap fun p : String × String =>
    targetIssue? document none ("trigger '" ++ p.1 ++ "'") p.2) (map_snd_numbered document.triggers)
  rw [List.filterMap_map] at htriggers
  have hpage : ∀ page (p : String × List Step),
      ((p.2.zipIdx.flatMap fun s => s.1.authored.map (Location.mk p.1 s.2, ·)).flatMap fun p =>
        Rule.danglingTarget.stepIssues document p.1 p.2) =
          (((numbered p.2).flatMap fun s => stepMentions page p.1 s.1 s.2).filterMap fun e =>
            document.report? e.2) := by
    intro page p
    rw [List.flatMap_assoc, List.filterMap_flatMap, numbered, List.flatMap_map]
    exact congrArg (p.2.zipIdx.flatMap ·) (funext fun s => hstep page p.1 s.2 s.1)
  have hpages : (document.authoredSteps.flatMap fun p =>
      Rule.danglingTarget.stepIssues document p.1 p.2) =
        ((numbered document.pages).flatMap fun p => (numbered p.2.2).flatMap fun s =>
          stepMentions p.1 p.2.1 s.1 s.2).filterMap fun e => document.report? e.2 := by
    rw [authoredSteps, List.flatMap_assoc, ← flatMap_numbered, List.filterMap_flatMap]
    exact congrArg ((numbered document.pages).flatMap ·) (funext fun p => hpage p.1 p.2)
  rw [ruleIssues, mentions, List.filterMap_append, hpages, List.filterMap_map]
  exact congrArg (_ ++ ·) htriggers.symm

/-! ### Following a target -/

/-- The target is a step as it stands. -/
def Resolves (document : Document) (target : String) : Prop :=
  ∃ l, Location.parse? target = some l ∧ (document.step? l).isSome

/-- What the target at an occurrence says does not depend on the stored values: a trigger is read as
it stands, and a field is when nothing in it would be replaced. -/
def Occurrence.Fixed (target : String) : Occurrence → Prop
  | .field .. => ∀ path, ¬ Template.Occurs path target.toList
  | .trigger _ => True

/-- The target at an occurrence is no step, whatever is stored. -/
def Dangles (document : Document) (o : Occurrence) (target : String) : Prop :=
  o.Fixed target ∧ ¬ document.Resolves target

/-- Go to a target from a location: as a trigger, or as a field of a step that has run. -/
def follow (document : Document) (store : Store) (source : Option Location) (target : String) :
    Occurrence → Except Fault (Option Location)
  | .field .. => (Directive.resolve store target).bind fun l => document.navigate source (some l)
  | .trigger _ => (Location.read target).bind fun l => document.navigate source (some l)

theorem follow_of_fixed {o : Occurrence} {target : String} (h : o.Fixed target) (store : Store)
    (source : Option Location) : document.follow store source target o =
      (Location.read target).bind fun l => document.navigate source (some l) := by
  cases o with
  | field page index route field => rw [follow, Directive.resolve, store.expand_of_not_occurs h]
  | trigger index => rfl

/-- **A dangling target is never followed.** -/
theorem follow_of_dangles {o : Occurrence} {target : String} (h : document.Dangles o target)
    (store : Store) (source : Option Location) :
    ∃ fault, document.follow store source target o = .error fault := by
  rw [follow_of_fixed h.1, Location.read]
  cases hparse : Location.parse? target with
  | none => exact ⟨_, rfl⟩
  | some l =>
    have hstep : ¬ (document.step? l).isSome := fun hsome => h.2 ⟨l, hparse, hsome⟩
    exact ⟨_, if_neg hstep⟩

/-- A target that says the same whatever is stored is followed unless it dangles. -/
theorem follow_of_not_dangles {o : Occurrence} {target : String} (hfixed : o.Fixed target)
    (h : ¬ document.Dangles o target) (store : Store) (source : Option Location) :
    ∃ l, document.follow store source target o = .ok (some l) := by
  obtain ⟨l, hparse, hstep⟩ : document.Resolves target := by
    by_contra hresolves
    exact h ⟨hfixed, hresolves⟩
  refine ⟨l, ?_⟩
  rw [follow_of_fixed hfixed, Location.read, hparse]
  exact if_pos hstep

/-- The rule names a problem of exactly the targets without two opening braces that are no step. -/
theorem targetProblem?_isSome_iff {target : String} : (targetProblem? document target).isSome ↔
    opensPlaceholder target.toList = false ∧ ¬ document.Resolves target := by
  cases hopens : opensPlaceholder target.toList with
  | true => simp [targetProblem?, hopens]
  | false =>
    rw [eq_self_iff_true, true_and, ← not_iff_not, not_not, Option.not_isSome_iff_eq_none]
    constructor
    · intro hnone
      exact step?_of_targetProblem? hnone hopens
    · rintro ⟨l, hparse, hstep⟩
      obtain ⟨steps, hpage, hget⟩ := Option.bind_eq_some_iff.1 (Option.get_mem hstep)
      have hlt : ¬ steps.length ≤ l.index := by
        have := (List.getElem?_eq_some_iff.1 hget).1
        omega
      simp only [targetProblem?, hopens, Bool.false_eq_true, if_false, hparse, hpage, if_neg hlt]

theorem report?_isSome_iff {mention : Mention} : (document.report? mention).isSome ↔
    opensPlaceholder mention.target.toList = false ∧ ¬ document.Resolves mention.target := by
  rw [report?, targetIssue?, Option.isSome_map, targetProblem?_isSome_iff]

theorem Occurrence.fixed_of_not_opens {target : String} (o : Occurrence)
    (h : opensPlaceholder target.toList = false) : o.Fixed target := by
  cases o with
  | field page index route field => exact Template.not_occurs_of_not_opens h
  | trigger index => trivial

/-- The results of a partial function along a list stand beside what they are the results of. -/
theorem forall₂_filterMap {α β : Type} (f : α → Option β) (l : List α) :
    List.Forall₂ (fun a b => a ∈ l ∧ f a = some b) (l.filter fun a => (f a).isSome)
      (l.filterMap f) := by
  induction l with
  | nil => exact .nil
  | cons a rest ih =>
    have hrest : List.Forall₂ (fun a' b => a' ∈ a :: rest ∧ f a' = some b)
        (rest.filter fun a => (f a).isSome) (rest.filterMap f) :=
      ih.imp fun a' b h => ⟨List.mem_cons_of_mem a h.1, h.2⟩
    cases hf : f a with
    | none => rwa [List.filter_cons_of_neg (by simp [hf]), List.filterMap_cons_none hf]
    | some b =>
      rw [List.filter_cons_of_pos (by simp [hf]), List.filterMap_cons_some hf]
      exact .cons ⟨List.mem_cons_self, hf⟩ hrest

/-- **The issues about targets are one for each occurrence of a dangling target that has no two
opening braces side by side**, and dangling targets are those that are never followed, among the
targets that say the same whatever is stored. -/
theorem danglingTargets_reported (document : Document) :
    (∃ reported : List Occurrence, reported.Nodup ∧
      (∀ o, o ∈ reported ↔ ∃ mention, document.Mentions o mention ∧
        document.Dangles o mention.target ∧ opensPlaceholder mention.target.toList = false) ∧
      List.Forall₂ (fun o issue => ∃ mention problem, document.Mentions o mention ∧
          targetProblem? document mention.target = some problem ∧
          issue = ⟨mention.location, .error, .danglingTarget,
            mention.subject ++ " target '" ++ mention.target ++ "' " ++ problem⟩)
        reported (document.issues.filter (·.rule = .danglingTarget))) ∧
    ∀ (o : Occurrence) (target : String) (store : Store) (source : Option Location),
      (document.Dangles o target → ∃ fault, document.follow store source target o = .error fault) ∧
      (o.Fixed target → ¬ document.Dangles o target →
        ∃ l, document.follow store source target o = .ok (some l)) := by
  have hlists := lists_mentions document
  refine ⟨⟨(document.mentions.filter fun e => (document.report? e.2).isSome).map (·.1), ?_, ?_, ?_⟩,
    fun o target store source => ⟨fun h => follow_of_dangles h store source,
      fun hfixed h => follow_of_not_dangles hfixed h store source⟩⟩
  · exact hlists.nodup.sublist (List.filter_sublist.map _)
  · intro o
    rw [List.mem_map]
    constructor
    · rintro ⟨⟨o, mention⟩, hmem, rfl⟩
      obtain ⟨hmention, hreport⟩ := List.mem_filter.1 hmem
      obtain ⟨hopens, hresolves⟩ := report?_isSome_iff.1 hreport
      have hfixed := Occurrence.fixed_of_not_opens o hopens
      exact ⟨mention, (hlists.mem_iff _ _).1 hmention, ⟨hfixed, hresolves⟩, hopens⟩
    · rintro ⟨mention, hmention, hdangles, hopens⟩
      have hreport : (document.report? mention).isSome := report?_isSome_iff.2 ⟨hopens, hdangles.2⟩
      exact ⟨(o, mention), List.mem_filter.2 ⟨(hlists.mem_iff _ _).2 hmention, hreport⟩, rfl⟩
  · rw [filter_issues, ruleIssues_danglingTarget, List.forall₂_map_left_iff]
    refine (forall₂_filterMap _ _).imp ?_
    rintro ⟨o, mention⟩ issue ⟨hmem, hreport⟩
    obtain ⟨problem, hproblem, rfl⟩ := Option.map_eq_some_iff.1 hreport
    exact ⟨mention, problem, (hlists.mem_iff _ _).1 hmem, hproblem, rfl⟩

/-- A document with a target in which two opening braces begin no placeholder, and with a
placeholder in the target of a trigger. -/
def unbraced : Document where
  pages := [("/start", [{ next := some "/missing\x7b\x7b" }])]
  triggers := [("go", "/\x7b\x7bpage\x7d\x7d")]

theorem not_resolves_of_parse? {target : String} {l : Location}
    (hparse : Location.parse? target = some l) (hstep : (document.step? l).isSome = false) :
    ¬ document.Resolves target := by
  rintro ⟨l', hparse', hstep'⟩
  obtain rfl : l = l' := Option.some.inj (hparse.symm.trans hparse')
  rw [hstep] at hstep'
  cases hstep'

theorem dangles_unbraced :
    unbraced.Dangles (.field 0 0 [] .next) "/missing\x7b\x7b" ∧
      unbraced.Dangles (.trigger 0) "/\x7b\x7bpage\x7d\x7d" := by
  have hnext : Location.parse? "/missing\x7b\x7b" = some (.start "/missing\x7b\x7b") := by
    decide +kernel
  have htrigger : Location.parse? "/\x7b\x7bpage\x7d\x7d" =
      some (.start "/\x7b\x7bpage\x7d\x7d") := by decide +kernel
  refine ⟨⟨?_, not_resolves_of_parse? hnext (by decide +kernel)⟩, trivial,
    not_resolves_of_parse? htrigger (by decide +kernel)⟩
  rintro path ⟨-, hinfix⟩
  have hclose : '}' ∈ "/missing\x7b\x7b".toList := hinfix.subset (by simp [Template.written])
  exact absurd hclose (by decide)

/-- Braces keep dangling targets from being reported. -/
theorem danglingTargets_reported_unbraced : unbraced.issues = [] ∧
    ∀ (store : Store) (source : Option Location),
      (∃ fault, unbraced.follow store source "/missing\x7b\x7b" (.field 0 0 [] .next) =
        .error fault) ∧
      ∃ fault, unbraced.follow store source "/\x7b\x7bpage\x7d\x7d" (.trigger 0) =
        .error fault := by
  obtain ⟨-, hfollow⟩ := danglingTargets_reported unbraced
  obtain ⟨hnext, htrigger⟩ := dangles_unbraced
  exact ⟨by decide +kernel, fun store source =>
    ⟨(hfollow _ _ store source).1 hnext, (hfollow _ _ store source).1 htrigger⟩⟩

end Document

end Dialogue
