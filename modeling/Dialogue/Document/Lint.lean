import Dialogue.Document.Basic
import Dialogue.Pattern
/-!
# Checking documents

A document can be checked before any conversation runs on it. Each rule looks at every authored
step, the steps of branches included, and reports an issue at the location of the step that holds
it.

## Main definitions

- `Lint.Rule`, `Lint.Severity`, `Lint.Issue`
- `Document.issues` — the issues of all rules, rule by rule
-/

namespace Dialogue

namespace Step

mutual

/-- A step and the steps of its branches, cases before the fallback. -/
def authored : Step → List Step
  | step@⟨_, _, _, _, _, _, none, _, _⟩ => [step]
  | step@⟨_, _, _, _, _, _, some ⟨_, cases, fallback⟩, _, _⟩ =>
    step :: (authoredCases cases ++
      match fallback with
      | none => []
      | some other => authored other)

/-- The steps of some cases and of their branches. -/
def authoredCases : List (String × Step) → List Step
  | [] => []
  | (_, step) :: rest => authored step ++ authoredCases rest

end

/-- The targets that a step names, each with the directive that does. -/
def targets (step : Step) : List (String × String) :=
  (step.next.toList.map ("next", ·)) ++
  ((step.links.getD []).map fun (_, target) => ("link", target)) ++
  ((step.request.bind (·.failNext)).toList.map ("failNext", ·))

end Step

namespace Lint

/-- A rule that documents are checked by. -/
inductive Rule where
  | danglingTarget
  | missingVariable
  | invalidPattern
  deriving DecidableEq, Repr, Inhabited

namespace Rule

/-- Every rule, in the order they are applied. -/
def all : List Rule := [.danglingTarget, .missingVariable, .invalidPattern]

/-- The name of a rule. -/
def name : Rule → String
  | .danglingTarget => "dangling-target"
  | .missingVariable => "missing-variable"
  | .invalidPattern => "invalid-pattern"

/-- What a rule demands. -/
def description : Rule → String
  | .danglingTarget => "Navigation targets must resolve to an existing step"
  | .missingVariable => "Inputs must name a variable to store into"
  | .invalidPattern => "Text input patterns must be valid regular expressions"

end Rule

/-- How bad an issue is: the conversation misbehaves, or there probably is a mistake. -/
inductive Severity where
  | error
  | warning
  deriving DecidableEq, Repr, Inhabited

/-- The name of a severity. -/
def Severity.name : Severity → String
  | .error => "error"
  | .warning => "warning"

/-- Something wrong with a document; without a location it concerns the document as a whole. -/
structure Issue where
  location : Option Location
  severity : Severity
  rule : Rule
  message : String
  deriving DecidableEq, Repr, Inhabited

/-- An issue in one line. -/
def Issue.line (issue : Issue) : String :=
  let place := match issue.location with
    | some location => " at " ++ location.text
    | none => ""
  issue.severity.name ++ place ++ ": " ++ issue.message ++ " [" ++ issue.rule.name ++ "]"

/-- Whether two opening braces stand side by side. -/
def opensPlaceholder : List Char → Bool
  | '{' :: '{' :: _ => true
  | _ :: rest => opensPlaceholder rest
  | [] => false

/-- What is wrong with a target, if something is. A target with a placeholder is known only when the
conversation runs. -/
def targetProblem? (document : Document) (target : String) : Option String :=
  if opensPlaceholder target.toList then none
  else
    match Location.parse? target with
    | none => some "is not a valid location"
    | some location =>
      match document.page? location.page with
      | none => some ("names unknown page '" ++ location.page ++ "'")
      | some steps =>
        if steps.length ≤ location.index then
          some ("is out of range (page has " ++ toString steps.length ++ " steps)")
        else none

/-- The name of a kind of input in a message. -/
def kindName : InputKind → String
  | .text => "Text"
  | .choice => "Choice"
  | .set => "Set"

/-- The issue of a target that is no step. -/
def targetIssue? (document : Document) (location : Option Location) (subject target : String) :
    Option Issue :=
  (targetProblem? document target).map fun problem =>
    ⟨location, .error, .danglingTarget, subject ++ " target '" ++ target ++ "' " ++ problem⟩

/-- The issues that a rule finds in one step. -/
def Rule.stepIssues (document : Document) (location : Location) (step : Step) : Rule → List Issue
  | .danglingTarget => step.targets.filterMap fun (kind, target) =>
    targetIssue? document location kind target
  | .missingVariable =>
    match step.input with
    | none => []
    | some input =>
      if (input.variablePath.getD "").isEmpty then
        [⟨location, .error, .missingVariable, "input has no 'variable'"⟩]
      else []
  | .invalidPattern =>
    match step.input with
    | some { kind, pattern := some pattern, .. } =>
      if kind = .text then
        match Pattern.compile pattern with
        | .ok _ => []
        | .error defect =>
          [⟨location, .error, .invalidPattern,
            "pattern '" ++ pattern ++ "' does not compile: " ++ defect.message⟩]
      else
        [⟨location, .warning, .invalidPattern,
          "pattern is ignored on a " ++ kindName kind ++ " input"⟩]
    | _ => []

/-- The issues that a rule finds outside all steps. -/
def Rule.documentIssues (document : Document) : Rule → List Issue
  | .danglingTarget => document.triggers.filterMap fun (trigger, target) =>
    targetIssue? document none ("trigger '" ++ trigger ++ "'") target
  | .missingVariable => []
  | .invalidPattern => []

end Lint

namespace Document

/-- Every step of a document with the location it belongs to, the steps of branches included. -/
def authoredSteps (document : Document) : List (Location × Step) :=
  document.pages.flatMap fun (page, steps) =>
    steps.zipIdx.flatMap fun (step, index) => step.authored.map (⟨page, index⟩, ·)

/-- The issues of a document, rule by rule. -/
def issues (document : Document) : List Lint.Issue :=
  Lint.Rule.all.flatMap fun rule =>
    (document.authoredSteps.flatMap fun (location, step) =>
      rule.stepIssues document location step) ++ rule.documentIssues document

end Document

end Dialogue
